/-
Graft/Proofs/Relation/Register.lean

What the register holds after some registrations.

Every registration sets the relation of one ordered pair of tables, but a
foreign key sets two: that of child and parent, and then that of parent and
child (`Registration.sets`).  Setting replaces what was there, so in the end a
pair has the relation that was set for it last, or the one that it had at first
(`Relations.get?_after`).

If no later registration names one of its two pairs, a foreign key is therefore
found in both directions, with one exception.  Where the child is its own
parent, the two pairs are the same, and of the two relations only the one that
is set last is left (`Relations.get?_foreignKey`).
-/
import Graft.Relation

namespace Graft

/-! ### Registrations -/

/-- A call that registers relations. -/
inductive Registration where
  | insert (owner related : String) (relation : Relation)
  | belongsTo (owner related key : String)
  | hasMany (owner related key : String)
  | foreignKey (child key parent : String)

namespace Registration

/-- The register after the call. -/
def apply (rs : Relations) : Registration → Relations
  | .insert owner related relation => rs.insert owner related relation
  | .belongsTo owner related key => rs.belongsTo owner related key
  | .hasMany owner related key => rs.hasMany owner related key
  | .foreignKey child key parent => rs.foreignKey child key parent

/-- The relations that the call sets, each for an ordered pair of tables, in that order. -/
def sets : Registration → List ((String × String) × Relation)
  | .insert owner related relation => [((owner, related), relation)]
  | .belongsTo owner related key => [((owner, related), ⟨key, .belongsTo⟩)]
  | .hasMany owner related key => [((owner, related), ⟨key, .hasMany⟩)]
  | .foreignKey child key parent =>
    [((child, parent), ⟨key, .belongsTo⟩), ((parent, child), ⟨key, .hasMany⟩)]

/-- The call names an ordered pair of tables. -/
def Names (call : Registration) (owner related : String) : Prop :=
  ∃ relation, ((owner, related), relation) ∈ call.sets

end Registration

/-! ### The register after some calls -/

namespace Relations

/-- The register with one more relation set. -/
def set (rs : Relations) (entry : (String × String) × Relation) : Relations :=
  rs.insert entry.1.1 entry.1.2 entry.2

/-- The register after some calls. -/
def after (rs : Relations) (calls : List Registration) : Relations :=
  calls.foldl Registration.apply rs

/-- **One call** does nothing but set its relations. -/
theorem apply_eq (rs : Relations) (call : Registration) :
    call.apply rs = call.sets.foldl set rs := by
  cases call <;> rfl

/-- **Some calls**, by induction on them, set the relations of all of them. -/
theorem after_eq (rs : Relations) (calls : List Registration) :
    rs.after calls = (calls.flatMap Registration.sets).foldl set rs := by
  induction calls generalizing rs with
  | nil => rfl
  | cons call rest ih =>
    rw [List.flatMap_cons, List.foldl_append, ← apply_eq]
    exact ih (call.apply rs)

/-- A pair has the relation that is set for it last. -/
theorem get?_foldl_set (entries : List ((String × String) × Relation)) (rs : Relations)
    (owner related : String) :
    (entries.foldl set rs).get? owner related =
      (entries.reverse.lookup (owner, related)).or (rs.get? owner related) := by
  induction entries generalizing rs with
  | nil => rfl
  | cons entry rest ih =>
    obtain ⟨pair, relation⟩ := entry
    rw [List.foldl_cons, ih, set, get?_insert, List.reverse_cons, List.lookup_append,
      Option.or_assoc]
    congr 1
    by_cases hpair : (owner, related) = pair
    · simp [hpair]
    · have hb : ((owner, related) == pair) = false := beq_eq_false_iff_ne.2 hpair
      simp [hpair, List.lookup_cons, hb]

/-- **The last registration of a pair counts**, and where there is none, what was there before. -/
theorem get?_after (rs : Relations) (calls : List Registration) (owner related : String) :
    (rs.after calls).get? owner related =
      ((calls.flatMap Registration.sets).reverse.lookup (owner, related)).or
        (rs.get? owner related) := by
  rw [after_eq, get?_foldl_set]

/-- Calls that do not name a pair leave it as it is. -/
theorem get?_after_of_not_names {calls : List Registration} {owner related : String}
    (h : ∀ call ∈ calls, ¬ call.Names owner related) (rs : Relations) :
    (rs.after calls).get? owner related = rs.get? owner related := by
  have hnone : (calls.flatMap Registration.sets).reverse.lookup (owner, related) = none := by
    rw [List.lookup_eq_none_iff]
    intro entry hentry
    obtain ⟨call, hcall, hmem⟩ := List.mem_flatMap.1 (List.mem_reverse.1 hentry)
    rw [bne_iff_ne]
    intro hpair
    exact h call hcall ⟨entry.2, by rwa [hpair]⟩
  rw [get?_after, hnone, Option.none_or]

/-- **A foreign key is registered in both directions**, unless the child is its own parent.  Let the
foreign key of a child be registered at any time, and let no later call name the pair of child and
parent or that of parent and child.  Then the parent has many of the child by that key; and the
child belongs to the parent by it exactly if the two are different tables. -/
theorem get?_foreignKey (rs : Relations) (earlier : List Registration)
    {later : List Registration} {child parent : String} (key : String)
    (h : ∀ call ∈ later, ¬ call.Names child parent ∧ ¬ call.Names parent child) :
    (rs.after (earlier ++ .foreignKey child key parent :: later)).get? parent child =
        some ⟨key, .hasMany⟩ ∧
      ((rs.after (earlier ++ .foreignKey child key parent :: later)).get? child parent =
          some ⟨key, .belongsTo⟩ ↔ child ≠ parent) := by
  have hsplit : rs.after (earlier ++ .foreignKey child key parent :: later) =
      ((rs.after earlier).foreignKey child key parent).after later := by
    rw [after, List.foldl_append]
    rfl
  rw [hsplit, get?_after_of_not_names fun call hcall => (h call hcall).1,
    get?_after_of_not_names fun call hcall => (h call hcall).2]
  -- what is left is a single registration, of which the second relation is set last
  rw [foreignKey, hasMany, belongsTo, get?_insert, if_pos rfl, get?_insert, get?_insert]
  refine ⟨rfl, ?_⟩
  by_cases hself : child = parent
  · simp [hself]
  · have hpairs : (child, parent) ≠ (parent, child) := fun heq => hself (congrArg Prod.fst heq)
    rw [if_neg hpairs, if_pos rfl]
    simp [hself]

/-- Registrations after which the two directions between items and orders are not named any more,
though these tables are. -/
def laterRegistrations : List Registration :=
  [.foreignKey "items" "product_id" "products", .hasMany "orders" "orders" "order_id"]

/-- The register keeps a foreign key that replaced one of the directions, and is named apart from
the other one later. -/
theorem get?_foreignKey_items :
    (∀ call ∈ laterRegistrations,
        ¬ call.Names "items" "orders" ∧ ¬ call.Names "orders" "items") ∧
      (after {} ([.belongsTo "orders" "items" "main_item_id"] ++
          .foreignKey "items" "order_id" "orders" :: laterRegistrations)).get? "items" "orders" =
        some ⟨"order_id", .belongsTo⟩ := by
  have hlater : ∀ call ∈ laterRegistrations,
      ¬ call.Names "items" "orders" ∧ ¬ call.Names "orders" "items" := by
    simp [laterRegistrations, Registration.Names, Registration.sets]
  exact ⟨hlater, (get?_foreignKey {} _ "order_id" hlater).2.2 (by decide)⟩

/-- A child that is its own parent is not registered in both directions. -/
theorem not_forall_foreignKey_both :
    ¬ ∀ (rs : Relations) (earlier later : List Registration) (child key parent : String),
      (∀ call ∈ later, ¬ call.Names child parent ∧ ¬ call.Names parent child) →
      (rs.after (earlier ++ .foreignKey child key parent :: later)).get? child parent =
          some ⟨key, .belongsTo⟩ ∧
        (rs.after (earlier ++ .foreignKey child key parent :: later)).get? parent child =
          some ⟨key, .hasMany⟩ := by
  intro h
  have hnone : ∀ call ∈ ([] : List Registration),
      ¬ call.Names "employees" "employees" ∧ ¬ call.Names "employees" "employees" :=
    fun _ hcall => absurd hcall List.not_mem_nil
  have hself := (h {} [] [] "employees" "manager_id" "employees" hnone).1
  exact absurd hself (by decide)

end Relations

end Graft
