/-
Graft/Proofs/Relation/Plural.lean

Which word is the singular of which, and that the singular of a singular is itself.

`SingularOf` has one rule for each ending of a word, and `singularize` follows
these rules (`singularize_eq_iff`).  Each rule leaves a word that does not end in
`s`, or ends in `ss`, or is the letter `s` alone: a word that stays as it is
(`IsSingular`).  So no rule makes a word to which another one applies
(`singularize_singularize`).

For the relations that are guessed from names it follows that a table in the
singular goes by the same key as the table in the plural, be it the owner
(`suggested?_singularize`) or the related table
(`suggested?_singularize_related_iff`).  Rows may also have a column named after
the plural as it is, without the rules, and that one is looked for under the
plural only.
-/
import Graft.Proofs.Relation.Inference
import Graft.Proofs.Relation.Singular

namespace Graft

/-! ### Words in the singular -/

/-- A word that stays as it is: it does not end in `s`, unless in `ss`, or it is that letter
alone. -/
def IsSingular (word : List Char) : Prop :=
  ['s'] <:+ word → ['s', 's'] <:+ word ∨ word = ['s']

theorem isSingular_of_not_suffix {word : List Char} (h : ¬ ['s'] <:+ word) : IsSingular word :=
  fun hs => absurd hs h

theorem isSingular_concat {c : Char} (hc : c ≠ 's') (stem : List Char) :
    IsSingular (stem ++ [c]) := by
  apply isSingular_of_not_suffix
  rw [← List.reverse_prefix]
  simp [hc.symm]

theorem not_isSingular_append_es (stem : List Char) : ¬ IsSingular (stem ++ ['e', 's']) := by
  intro h
  rcases h ⟨stem ++ ['e'], by simp⟩ with hss | hs
  · rw [← List.reverse_prefix] at hss
    simp at hss
  · simpa using congrArg List.length hs

/-! ### Sibilants -/

/-- The sounds after which a plural has `es`. -/
def sibilants : List (List Char) :=
  ["ss", "x", "ch", "sh", "zz"].map String.toList

theorem nil_not_mem_sibilants : [] ∉ sibilants := by decide

/-- The word ends in a sibilant. -/
def EndsInSibilant (word : List Char) : Prop :=
  ∃ sibilant ∈ sibilants, sibilant <:+ word

theorem any_sibilantPlurals_iff {word : List Char} :
    sibilantPlurals.any (·.isSuffixOf word) = true ↔
      ∃ stem, EndsInSibilant stem ∧ word = stem ++ ['e', 's'] := by
  have hplurals : sibilantPlurals = sibilants.map (· ++ ['e', 's']) := by decide
  rw [hplurals, List.any_map, List.any_eq_true]
  constructor
  · rintro ⟨sibilant, hsibilant, hword⟩
    obtain ⟨start, rfl⟩ := List.isSuffixOf_iff_suffix.1 hword
    exact ⟨start ++ sibilant, ⟨sibilant, hsibilant, start, rfl⟩, (List.append_assoc ..).symm⟩
  · rintro ⟨stem, ⟨sibilant, hsibilant, hstem⟩, rfl⟩
    exact ⟨sibilant, hsibilant,
      List.isSuffixOf_iff_suffix.2 (List.suffix_append_self_iff.2 hstem)⟩

namespace EndsInSibilant

variable {word : List Char}

theorem ne_nil (h : EndsInSibilant word) : word ≠ [] := by
  rintro rfl
  obtain ⟨sibilant, hsibilant, hnil⟩ := h
  rw [List.suffix_nil.1 hnil] at hsibilant
  exact nil_not_mem_sibilants hsibilant

/-- The last letter of the word is that of the sibilant. -/
theorem exists_last (h : EndsInSibilant word) {c : Char} (hc : [c] <:+ word) :
    ∃ sibilant ∈ sibilants, sibilant <:+ word ∧ [c] <:+ sibilant := by
  obtain ⟨sibilant, hsibilant, hword⟩ := h
  refine ⟨sibilant, hsibilant, hword, ?_⟩
  rcases List.suffix_or_suffix_of_suffix hc hword with hlast | hlast
  · exact hlast
  · rcases List.suffix_cons_iff.1 hlast with rfl | hnil
    · exact List.suffix_rfl
    · rw [List.suffix_nil.1 hnil] at hsibilant
      exact absurd hsibilant nil_not_mem_sibilants

/-- Of the sibilants only `ss` ends in `s`. -/
theorem isSingular (h : EndsInSibilant word) : IsSingular word := by
  have hss : ∀ sibilant ∈ sibilants, ['s'] <:+ sibilant → sibilant = ['s', 's'] := by decide
  intro hs
  obtain ⟨sibilant, hsibilant, hword, hlast⟩ := h.exists_last hs
  rw [hss sibilant hsibilant hlast] at hword
  exact .inl hword

/-- No sibilant ends in `i`. -/
theorem not_append_i (stem : List Char) : ¬ EndsInSibilant (stem ++ ['i']) := by
  have hi : ∀ sibilant ∈ sibilants, ¬ ['i'] <:+ sibilant := by decide
  intro h
  obtain ⟨sibilant, hsibilant, -, hlast⟩ := h.exists_last (List.suffix_append stem ['i'])
  exact hi sibilant hsibilant hlast

end EndsInSibilant

/-! ### The rules -/

/-- `SingularOf word singular`: the singular of a word, one rule for each ending. -/
inductive SingularOf : List Char → List Char → Prop
  | ies {stem : List Char} (hstem : stem ≠ []) :
      SingularOf (stem ++ ['i', 'e', 's']) (stem ++ ['y'])
  | es {singular : List Char} (hsibilant : EndsInSibilant singular) :
      SingularOf (singular ++ ['e', 's']) singular
  /-- Any other `s` goes, after a letter that is not `s`; so it does from `ies` alone. -/
  | s {singular : List Char} (hsome : singular ≠ []) (hlast : ¬ ['s'] <:+ singular)
      (hies : ∀ stem, singular = stem ++ ['i', 'e'] → stem = [])
      (hes : ∀ stem, singular = stem ++ ['e'] → ¬ EndsInSibilant stem) :
      SingularOf (singular ++ ['s']) singular
  | self {word : List Char} (hsingular : IsSingular word) : SingularOf word word

namespace SingularOf

variable {word singular : List Char}

/-- **What a rule leaves is a singular.** -/
theorem isSingular (h : SingularOf word singular) : IsSingular singular := by
  cases h with
  | ies hstem => exact isSingular_concat (by decide) _
  | es hsibilant => exact hsibilant.isSingular
  | s hsome hlast hies hes => exact isSingular_of_not_suffix hlast
  | self hsingular => exact hsingular

theorem eq_nil_iff (h : SingularOf word singular) : singular = [] ↔ word = [] := by
  cases h with
  | ies hstem => simp
  | es hsibilant => simp [hsibilant.ne_nil]
  | s hsome hlast hies hes => simp [hsome]
  | self hsingular => rfl

/-- The two words differ in the ending only. -/
theorem ending (h : SingularOf word singular) :
    singular = word ∨ word = singular ++ ['s'] ∨ word = singular ++ ['e', 's'] ∨
      ∃ stem, word = stem ++ ['i', 'e', 's'] ∧ singular = stem ++ ['y'] := by
  cases h with
  | @ies stem hstem => exact .inr (.inr (.inr ⟨stem, rfl, rfl⟩))
  | es hsibilant => exact .inr (.inr (.inl rfl))
  | s hsome hlast hies hes => exact .inr (.inl rfl)
  | self hsingular => exact .inl rfl

end SingularOf

/-! ### Following the rules -/

/-- A longer ending in place of a shorter one. -/
theorem eq_append_of_append_eq {word stem : List Char} (more ending : List Char)
    (h : word ++ ending = stem ++ (more ++ ending)) : word = stem ++ more :=
  List.append_cancel_right (h.trans (List.append_assoc stem more ending).symm)

theorem ss_suffix_append_s_iff {stem : List Char} :
    ['s', 's'] <:+ stem ++ ['s'] ↔ ['s'] <:+ stem :=
  @List.suffix_append_self_iff _ ['s'] stem ['s']

theorem isSingular_append_s_iff {stem : List Char} :
    IsSingular (stem ++ ['s']) ↔ ['s'] <:+ stem ∨ stem = [] := by
  rw [IsSingular, imp_iff_right (List.suffix_append stem ['s']), ss_suffix_append_s_iff,
    List.append_left_eq_self]

/-- The singular of a word that does not end in `ies`. -/
theorem singularChars_of_not_ies {word : List Char}
    (h : ∀ stem, word = stem ++ ['i', 'e', 's'] → stem = []) :
    singularChars word =
      if sibilantPlurals.any (·.isSuffixOf word) then word.take (word.length - 2)
      else if ['s', 's'].isSuffixOf word then word
      else
        match stripSuffix? ['s'] word with
        | some (c :: stem) => c :: stem
        | _ => word := by
  rw [singularChars]
  split
  · next c stem hies => exact absurd (h _ (stripSuffix?_eq_some_iff.1 hies)) (by simp)
  · rfl

theorem singularChars_append_ies {stem : List Char} (hstem : stem ≠ []) :
    singularChars (stem ++ ['i', 'e', 's']) = stem ++ ['y'] := by
  obtain ⟨c, rest, rfl⟩ := List.exists_cons_of_ne_nil hstem
  rw [singularChars, stripSuffix?_eq_some_iff.2 rfl]

theorem singularChars_append_es {singular : List Char} (h : EndsInSibilant singular) :
    singularChars (singular ++ ['e', 's']) = singular := by
  have hies : ∀ stem, singular ++ ['e', 's'] = stem ++ ['i', 'e', 's'] → stem = [] := by
    intro stem heq
    rw [eq_append_of_append_eq ['i'] ['e', 's'] heq] at h
    exact absurd h (EndsInSibilant.not_append_i stem)
  rw [singularChars_of_not_ies hies, if_pos (any_sibilantPlurals_iff.2 ⟨singular, h, rfl⟩)]
  simp

theorem singularChars_append_s {singular : List Char} (hsome : singular ≠ [])
    (hlast : ¬ ['s'] <:+ singular) (hies : ∀ stem, singular = stem ++ ['i', 'e'] → stem = [])
    (hes : ∀ stem, singular = stem ++ ['e'] → ¬ EndsInSibilant stem) :
    singularChars (singular ++ ['s']) = singular := by
  have hnotIes : ∀ stem, singular ++ ['s'] = stem ++ ['i', 'e', 's'] → stem = [] :=
    fun stem heq => hies stem (eq_append_of_append_eq ['i', 'e'] ['s'] heq)
  have hnotEs : ¬ sibilantPlurals.any (·.isSuffixOf (singular ++ ['s'])) = true := by
    intro hany
    obtain ⟨stem, hsibilant, heq⟩ := any_sibilantPlurals_iff.1 hany
    exact hes stem (eq_append_of_append_eq ['e'] ['s'] heq) hsibilant
  have hnotSs : ¬ ['s', 's'].isSuffixOf (singular ++ ['s']) = true := by
    rwa [List.isSuffixOf_iff_suffix, ss_suffix_append_s_iff]
  obtain ⟨c, rest, rfl⟩ := List.exists_cons_of_ne_nil hsome
  rw [singularChars_of_not_ies hnotIes, if_neg hnotEs, if_neg hnotSs,
    stripSuffix?_eq_some_iff.2 rfl]

/-- **A singular is its own singular**: none of the endings that are looked for is one of it. -/
theorem singularChars_of_isSingular {word : List Char} (h : IsSingular word) :
    singularChars word = word := by
  have hnotEs : ∀ stem, word ≠ stem ++ ['e', 's'] := by
    rintro stem rfl
    exact not_isSingular_append_es stem h
  have hnotIes : ∀ stem, word = stem ++ ['i', 'e', 's'] → stem = [] := fun stem heq =>
    absurd (heq.trans (List.append_assoc stem ['i'] ['e', 's']).symm) (hnotEs _)
  have hnotSibilant : ¬ sibilantPlurals.any (·.isSuffixOf word) = true := by
    intro hany
    obtain ⟨stem, heq⟩ := exists_stem_of_sibilant hany
    exact hnotEs stem heq
  rw [singularChars_of_not_ies hnotIes, if_neg hnotSibilant]
  split
  · rfl
  · next hnotSs =>
    split
    · next c stem hs =>
      -- a single `s` after other letters would make it no singular
      obtain rfl := stripSuffix?_eq_some_iff.1 hs
      rw [List.isSuffixOf_iff_suffix, ss_suffix_append_s_iff] at hnotSs
      rcases isSingular_append_s_iff.1 h with hss | hnil
      · exact absurd hss hnotSs
      · exact absurd hnil (List.cons_ne_nil c stem)
    · rfl

/-- What a rule says is what is made of the word. -/
theorem SingularOf.eq {word singular : List Char} (h : SingularOf word singular) :
    singularChars word = singular := by
  cases h with
  | ies hstem => exact singularChars_append_ies hstem
  | es hsibilant => exact singularChars_append_es hsibilant
  | s hsome hlast hies hes => exact singularChars_append_s hsome hlast hies hes
  | self hsingular => exact singularChars_of_isSingular hsingular

/-- One rule or another applies. -/
theorem exists_singularOf (word : List Char) : ∃ singular, SingularOf word singular := by
  by_cases hsingular : IsSingular word
  · exact ⟨word, .self hsingular⟩
  · obtain ⟨stem, rfl⟩ : ['s'] <:+ word :=
      not_not.1 fun h => hsingular (isSingular_of_not_suffix h)
    rw [isSingular_append_s_iff, not_or] at hsingular
    obtain ⟨hlast, hsome⟩ := hsingular
    -- The endings are tried in the order in which `singularize` does.
    by_cases hies : ∀ start, stem = start ++ ['i', 'e'] → start = []
    · by_cases hes : ∀ start, stem = start ++ ['e'] → ¬ EndsInSibilant start
      · exact ⟨stem, .s hsome hlast hies hes⟩
      · push Not at hes
        obtain ⟨start, rfl, hsibilant⟩ := hes
        rw [List.append_assoc]
        exact ⟨start, .es hsibilant⟩
    · push Not at hies
      obtain ⟨start, rfl, hstart⟩ := hies
      rw [List.append_assoc]
      exact ⟨start ++ ['y'], .ies hstart⟩

/-- **The rules are all there is** to the singular of a word. -/
theorem singularChars_eq_iff {word singular : List Char} :
    singularChars word = singular ↔ SingularOf word singular := by
  constructor
  · rintro rfl
    obtain ⟨singular, h⟩ := exists_singularOf word
    rw [h.eq]
    exact h
  · exact SingularOf.eq

theorem singularOf_singularize (name : String) :
    SingularOf name.toList (singularize name).toList := by
  rw [singularize, String.toList_ofList]
  exact singularChars_eq_iff.1 rfl

theorem singularize_eq_iff {name singular : String} :
    singularize name = singular ↔ SingularOf name.toList singular.toList := by
  rw [← singularChars_eq_iff, singularize, ← String.toList_inj, String.toList_ofList]

example : ["categories", "classes", "class", "ies", "batches", "caches", "s"].map singularize =
    ["category", "class", "class", "ie", "batch", "cach", "s"] := by
  decide

/-- The singular of a name is its own singular. -/
theorem singularize_singularize (name : String) :
    singularize (singularize name) = singularize name :=
  singularize_eq_iff.2 (.self (singularOf_singularize name).isSingular)

theorem singularize_eq_empty_iff (name : String) : singularize name = "" ↔ name = "" := by
  rw [← String.toList_eq_nil_iff, ← String.toList_eq_nil_iff]
  exact (singularOf_singularize name).eq_nil_iff

/-- A name and its singular differ in the ending only. -/
theorem singularize_ending (name : String) :
    singularize name = name ∨ name = singularize name ++ "s" ∨ name = singularize name ++ "es" ∨
      ∃ stem, name = stem ++ "ies" ∧ singularize name = stem ++ "y" := by
  have happend : ∀ {whole start ending : String},
      whole.toList = start.toList ++ ending.toList → whole = start ++ ending := fun h =>
    String.toList_inj.1 (h.trans String.toList_append.symm)
  rcases (singularOf_singularize name).ending with hself | hs | hes | ⟨stem, hies, hy⟩
  · exact .inl (String.toList_inj.1 hself)
  · exact .inr (.inl (happend hs))
  · exact .inr (.inr (.inl (happend hes)))
  · rw [← @String.toList_ofList stem] at hies hy
    exact .inr (.inr (.inr ⟨String.ofList stem, happend hies, happend hy⟩))

/-! ### Relations guessed from a singular -/

/-- The relation that the names suggest, if they suggest one, however doubtful. -/
def suggested? (owner related : String) (rows : List Row) : Option Relation :=
  (inferRelation owner related rows).toOption.map (·.relation)

theorem suggested?_eq (owner related : String) (rows : List Row) :
    suggested? owner related rows =
      match presentCandidates related rows with
      | [] => some ⟨keyNamed (singularize owner), .hasMany⟩
      | [foreignKey] => some ⟨foreignKey, .belongsTo⟩
      | _ => none := by
  rw [suggested?, inferRelation, presentCandidates]
  generalize (foreignKeyCandidates related).filter (fun c => rows.any (·.contains c)) = present
  rcases present with _ | ⟨foreignKey, _ | ⟨other, rest⟩⟩ <;> rfl

/-- **The singular owns what the plural owns**, by the same foreign key. -/
theorem suggested?_singularize (owner related : String) (rows : List Row) :
    suggested? (singularize owner) related rows = suggested? owner related rows := by
  rw [suggested?_eq, suggested?_eq, singularize_singularize]

theorem foreignKeyCandidates_singularize (related : String) :
    foreignKeyCandidates (singularize related) = [keyNamed (singularize related)] := by
  rw [foreignKeyCandidates, singularize_singularize, if_pos rfl]

/-- Rows may belong to the singular by one column, the one that is the likelier for the plural. -/
theorem foreignKeyCandidates_singularize_eq_take (related : String) :
    foreignKeyCandidates (singularize related) = (foreignKeyCandidates related).take 1 := by
  rw [foreignKeyCandidates_singularize, foreignKeyCandidates]
  split
  · next hsame => rw [hsame, List.take_succ_cons, List.take_zero]
  · rfl

theorem foreignKeyCandidates_of_ne {related : String} (h : singularize related ≠ related) :
    foreignKeyCandidates related = [keyNamed (singularize related), keyNamed related] := by
  have hkey : keyNamed (singularize related) ≠ keyNamed related := fun hkey =>
    h ((String.append_left_inj "_id").1 hkey)
  rw [foreignKeyCandidates, if_neg hkey]

/-- **Rows relate to the singular as to the plural**, unless they have a column named after the
plural as it is. -/
theorem suggested?_singularize_related_iff {owner related : String} {rows : List Row} :
    suggested? owner (singularize related) rows = suggested? owner related rows ↔
      singularize related = related ∨ ¬ HasColumn rows (keyNamed related) := by
  by_cases hsame : singularize related = related
  · simp [hsame]
  · rw [or_iff_right hsame, suggested?_eq, suggested?_eq, presentCandidates, presentCandidates,
      foreignKeyCandidates_singularize, foreignKeyCandidates_of_ne hsame]
    -- with both columns the plural is ambiguous, and with its own alone it has another key
    by_cases hsingular : HasColumn rows (keyNamed (singularize related)) <;>
      by_cases hself : HasColumn rows (keyNamed related) <;>
        simp [any_contains_iff, hsingular, hself, -List.any_eq_true]

/-- **The singular of a name is settled at once.**  It is what the rules say; put in the singular
again, it stays the same; it is empty only if the name is; and it is the name itself, or the name
without `s` or `es` at its end, or with `y` in place of `ies`.  Therefore a table called by the
singular has the same relations to others, by the same foreign keys, as a table called by the name.
Rows that belong to it do so by the column that comes first for the name; and they have the same
relations to it, unless they have a column named after the name as it is, without the rules. -/
theorem singularize_settled (name : String) :
    (∀ singular, singularize name = singular ↔ SingularOf name.toList singular.toList) ∧
      singularize (singularize name) = singularize name ∧
      (singularize name = "" ↔ name = "") ∧
      (singularize name = name ∨ name = singularize name ++ "s" ∨ name = singularize name ++ "es" ∨
        ∃ stem, name = stem ++ "ies" ∧ singularize name = stem ++ "y") ∧
      (∀ related rows, suggested? (singularize name) related rows = suggested? name related rows) ∧
      foreignKeyCandidates (singularize name) = (foreignKeyCandidates name).take 1 ∧
      ∀ owner rows, suggested? owner (singularize name) rows = suggested? owner name rows ↔
        singularize name = name ∨ ¬ HasColumn rows (keyNamed name) :=
  ⟨fun _ => singularize_eq_iff, singularize_singularize name, singularize_eq_empty_iff name,
    singularize_ending name, suggested?_singularize name,
    foreignKeyCandidates_singularize_eq_take name, fun _ _ => suggested?_singularize_related_iff⟩

/-- An invoice that names its customer in a column called after the table as it is. -/
def invoiceByPlural : Row :=
  .ofFields [("id", .str "1"), ("customers_id", .str "7")]

/-- Such a column is not found for the singular: the customers of the invoice are looked for by
`customers_id`, but those of a table `customer` by `invoice_id`. -/
theorem not_forall_foreignKey_singularize :
    ¬∀ (owner name : String) (rows : List Row),
      (suggested? owner (singularize name) rows).map (·.foreignKey) =
        (suggested? owner name rows).map (·.foreignKey) := by
  intro h
  have hsingular : (suggested? "invoices" (singularize "customers") [invoiceByPlural]).map
      (·.foreignKey) = some "invoice_id" := by decide
  have hplural : (suggested? "invoices" "customers" [invoiceByPlural]).map (·.foreignKey) =
      some "customers_id" := by decide
  have hsame := h "invoices" "customers" [invoiceByPlural]
  rw [hsingular, hplural] at hsame
  exact absurd hsame (by decide)

end Graft
