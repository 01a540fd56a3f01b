/-
Graft/Proofs/Chain/Refusal.lean

When a chain is found to be wrong after it has sent something.

Most of what can be wrong with a chain is found before its statement is sent,
and then nothing is sent at all.  The one exception is what is wrong with the
select expression of a nested relation: that expression is compiled when rows
have come back that something is to be embedded in, and not before.

`Embed.Refuses` tells how embedding may come to such an expression.  It does so
exactly where a chain answers with a contract violation after sending
something (`Chain.ends_violation_after_sending_iff`), and the statement of the
chain, be it an insert or a delete, has then been executed.
-/
import Graft.Proofs.Chain.Compile
import Graft.Proofs.Chain.Plan
import Graft.Proofs.Embed.Splice

namespace Graft

/-- The engine answers with no error that stands for a fault of the chain. -/
def BlamesNoChain (es : List Exchange) : Prop :=
  ∀ x ∈ es, ∀ e, x.reply = .error e → e.isContractViolation = false

namespace Embed

variable {client : Client}

/-! ### Lookups that are refused -/

/-- `Refuses client n owner rows es v`: embedding `n` in some rows of the owner may have the
exchanges `es`, and then come to a lookup that is refused for `v`. -/
inductive Refuses (client : Client) :
    Nesting → String → List Row → List Exchange → Violation → Prop
  /-- The first relation is needed, and its lookup is refused. -/
  | here {owner : String} {request : Request} {selection : Except Violation Selection}
      {inside rest : Nesting} {rows : List Row} {found : FoundRelation} {v : Violation}
      (hrows : rows ≠ [])
      (hfound : client.findRelation owner request.table rows = .ok found)
      (hkeys : wantedKeys (found.link client).ownerColumn rows ≠ [])
      (hparts : Lookup.parts client request selection (found.link client).relatedColumn =
        .error v) :
      Refuses client (.cons request selection inside rest) owner rows [] v
  /-- The first relation is looked up, and one inside its rows is refused. -/
  | inside {owner : String} {request : Request} {selection : Except Violation Selection}
      {inside rest : Nesting} {rows replied : List Row} {found : FoundRelation}
      {p : Lookup.Parts} {later : List Exchange} {v : Violation}
      (hrows : rows ≠ [])
      (hfound : client.findRelation owner request.table rows = .ok found)
      (hkeys : wantedKeys (found.link client).ownerColumn rows ≠ [])
      (hparts : Lookup.parts client request selection (found.link client).relatedColumn = .ok p)
      (hinside : Refuses client inside request.table replied later v) :
      Refuses client (.cons request selection inside rest) owner rows
        (⟨p.statement request.table (wantedKeys (found.link client).ownerColumn rows),
          .ok replied⟩ :: later) v
  /-- The first relation is embedded, and one after it is refused. -/
  | after {owner : String} {request : Request} {selection : Except Violation Selection}
      {inside rest : Nesting} {rows mid : List Row} {es₁ es₂ : List Exchange} {v : Violation}
      (hfirst : (embedOne client owner request selection
        (embedAll client inside request.table) rows).Course es₁ (.ok mid))
      (hafter : Refuses client rest owner mid es₂ v) :
      Refuses client (.cons request selection inside rest) owner rows (es₁ ++ es₂) v

/-- A relation that is not found is no contract violation. -/
theorem isContractViolation_of_findRelation {owner related : String} {rows : List Row} {e : Error}
    (h : client.findRelation owner related rows = .error e) : e.isContractViolation = false := by
  unfold Client.findRelation at h
  split at h
  · cases h
  · unfold inferRelation at h
    split at h
    · cases h
    · cases h
    · cases h
      rfl
  · cases h
    rfl

theorem eq_of_blameGuess_isContractViolation {owner : String} {request : Request}
    {found : FoundRelation} {e : Error}
    (h : (blameGuess owner request found e).isContractViolation = true) :
    blameGuess owner request found e = e := by
  unfold blameGuess at h ⊢
  split
  · split
    · next hguess => simp [hguess, Error.isContractViolation] at h
    · rfl
  · rfl

/-- A refusal ends embedding. -/
theorem Refuses.course {n : Nesting} {owner : String} {rows : List Row} {es : List Exchange}
    {v : Violation} (h : Refuses client n owner rows es v) :
    (embedAll client n owner rows).Course es (.error (.validation v)) := by
  induction h with
  | here hrows hfound hkeys hparts =>
    rw [embedAll, Action.course_bind_iff]
    exact .inl ⟨_, (course_embedOne_found_iff hrows hfound).2
      ⟨_, (gathers_refused_iff hkeys hparts).2 ⟨rfl, rfl⟩, rfl⟩, rfl⟩
  | inside hrows hfound hkeys hparts _ ih =>
    rw [embedAll, Action.course_bind_iff]
    refine .inl ⟨_, (course_embedOne_found_iff hrows hfound).2
      ⟨.error _, (gathers_iff_of_parts hkeys hparts).2 ⟨.ok _, _, rfl, _, ih, rfl⟩, rfl⟩, rfl⟩
  | after hfirst _ ih =>
    rw [embedAll, Action.course_bind_iff]
    exact .inr ⟨_, _, _, hfirst, ih, rfl⟩

/-- Where gathering ends in a contract violation, its lookup is refused or one inside it is. -/
theorem refuses_of_gathers {owner : String} {request : Request}
    {selection : Except Violation Selection} {inside rest : Nesting} {rows : List Row}
    {found : FoundRelation} {es : List Exchange} {e : Error}
    (hinside : ∀ replied later, BlamesNoChain later →
      (embedAll client inside request.table replied).Course later (.error e) →
      ∃ v, e = .validation v ∧ Refuses client inside request.table replied later v)
    (hrows : rows ≠ []) (hfound : client.findRelation owner request.table rows = .ok found)
    (h : Gathers client request selection (embedAll client inside request.table)
      (found.link client).relatedColumn (wantedKeys (found.link client).ownerColumn rows) es
      (.error e))
    (hes : BlamesNoChain es) (he : e.isContractViolation = true) :
    ∃ v, e = .validation v ∧
      Refuses client (.cons request selection inside rest) owner rows es v := by
  have hkeys : wantedKeys (found.link client).ownerColumn rows ≠ [] := by
    intro hnil
    rw [hnil, gathers_nil_iff] at h
    cases h.2
  cases hparts : Lookup.parts client request selection (found.link client).relatedColumn with
  | error v =>
    obtain ⟨rfl, hsame⟩ := (gathers_refused_iff hkeys hparts).1 h
    exact ⟨v, Except.error.inj hsame, .here hrows hfound hkeys hparts⟩
  | ok p =>
    obtain ⟨reply, later, rfl, hreply⟩ := (gathers_iff_of_parts hkeys hparts).1 h
    cases reply with
    | error e' =>
      -- the engine is not to blame the chain
      obtain ⟨-, hsame⟩ := hreply
      cases hsame
      rw [hes _ List.mem_cons_self e rfl] at he
      cases he
    | ok replied =>
      obtain ⟨nested, hnested, hsame⟩ := hreply
      cases nested with
      | ok _ => cases hsame
      | error e' =>
        cases hsame
        obtain ⟨v, rfl, hv⟩ :=
          hinside replied later (fun x hx => hes x (List.mem_cons_of_mem _ hx)) hnested
        exact ⟨v, rfl, .inside hrows hfound hkeys hparts hv⟩

/-- Where embedding one relation ends in a contract violation, that relation or one inside it is
refused. -/
theorem refuses_of_course_embedOne {owner : String} {request : Request}
    {selection : Except Violation Selection} {inside rest : Nesting} {rows : List Row}
    {es : List Exchange} {e : Error}
    (hinside : ∀ replied later, BlamesNoChain later →
      (embedAll client inside request.table replied).Course later (.error e) →
      ∃ v, e = .validation v ∧ Refuses client inside request.table replied later v)
    (h : (embedOne client owner request selection
      (embedAll client inside request.table) rows).Course es (.error e))
    (hes : BlamesNoChain es) (he : e.isContractViolation = true) :
    ∃ v, e = .validation v ∧
      Refuses client (.cons request selection inside rest) owner rows es v := by
  obtain ⟨-, -, hok⟩ | ⟨-, e', hfound, -, herror⟩ | ⟨hrows, found, g, hfound, hg, hr⟩ :=
    course_embedOne_iff.1 h
  · cases hok
  · cases herror
    rw [isContractViolation_of_findRelation hfound] at he
    cases he
  · cases g with
    | ok gathered => cases hr
    | error e' =>
      -- A blamed guess is a relation error, so the violation was passed on as it is.
      have hblame : e = blameGuess owner request found e' := Except.error.inj hr
      have hsame : blameGuess owner request found e' = e' :=
        eq_of_blameGuess_isContractViolation (hblame ▸ he)
      obtain rfl : e = e' := hblame.trans hsame
      exact refuses_of_gathers hinside hrows hfound hg hes he

/-- **Contract violations while embedding.**  If the engine answers with none itself, embedding ends
in a contract violation exactly where it comes to a lookup that is refused. -/
theorem course_embedAll_violation_iff {n : Nesting} {owner : String} {rows : List Row}
    {es : List Exchange} {e : Error} (hes : BlamesNoChain es) :
    (embedAll client n owner rows).Course es (.error e) ∧ e.isContractViolation = true ↔
      ∃ v, e = .validation v ∧ Refuses client n owner rows es v := by
  constructor
  · rintro ⟨h, he⟩
    -- on the nesting, as embedding goes through it
    induction n generalizing owner rows es with
    | nil => cases (Action.course_pure_iff.1 h).2
    | cons request selection inside rest ihinside ihrest =>
      rw [embedAll, Action.course_bind_iff] at h
      obtain ⟨e', hone, herror⟩ | ⟨mid, es₁, es₂, hone, hall, rfl⟩ := h
      · cases herror
        exact refuses_of_course_embedOne
          (fun _ _ hlater hcourse => ihinside hlater hcourse) hone hes he
      · obtain ⟨v, rfl, hv⟩ := ihrest (fun x hx => hes x (List.mem_append_right _ hx)) hall
        exact ⟨v, rfl, .after hone hv⟩
  · rintro ⟨v, rfl, hv⟩
    exact ⟨hv.course, rfl⟩

end Embed

namespace Chain

variable {client : Client} {c : Chain} {es : List Exchange} {error : Error}

/-! ### Chains that are refused too late -/

/-- A plan whose rows have come back, and whose nested relations are then refused, ends in the
violation. -/
theorem ends_of_refuses {c' : Chain} {plan : Plan} {projection : Projection} {rows : List Row}
    {later : List Exchange} {v : Violation}
    (hc : c' = c ∨ c' = c.forSingle) (hplan : c'.Plans client plan)
    (hprojection : plan.projection? = some projection)
    (hrefuses : Embed.Refuses client projection.nesting plan.table rows later v) :
    c.Ends client (⟨plan.statement, .ok rows⟩ :: later) (some (.validation v)) := by
  refine ends_iff.2 ⟨c', .error (.validation v), hc, ?_, rfl⟩
  refine (course_run_iff (List.cons_ne_nil _ _)).2 ⟨plan, hplan, ?_⟩
  refine Plan.course_carryOut_iff.2 (.inr ⟨rows, later, rfl, ?_⟩)
  rw [Plan.finish, hprojection]
  exact Action.course_bind_pure_iff.2 ⟨_, hrefuses.course, rfl⟩

/-- **Contract violations after something was sent.**  If the engine answers with none itself, a
chain ends in a contract violation although it has sent something exactly where its own statement
was answered with rows, and embedding in these rows came to a nested relation whose lookup is
refused. -/
theorem ends_violation_after_sending_iff (hes : BlamesNoChain es) :
    c.Ends client es (some error) ∧ error.isContractViolation = true ∧ es ≠ [] ↔
      ∃ c' plan projection rows later v, (c' = c ∨ c' = c.forSingle) ∧
        c'.Plans client plan ∧ plan.projection? = some projection ∧
        es = ⟨plan.statement, .ok rows⟩ :: later ∧
        Embed.Refuses client projection.nesting plan.table rows later v ∧
        error = .validation v := by
  constructor
  · rintro ⟨hends, herror, hsent⟩
    obtain ⟨c', r, hc, hrun, hr⟩ := ends_iff.1 hends
    have hr : r = .error error := by
      cases r with
      | error e => exact congrArg Except.error (Option.some.inj hr).symm
      | ok rows => cases hr
    subst hr
    -- something was sent, so the chain has passed all its checks and only sending can fail
    obtain ⟨plan, hplan, hcarry⟩ := (course_run_iff hsent).1 hrun
    obtain ⟨e, rfl, he⟩ | ⟨rows, later, rfl, hfinish⟩ := Plan.course_carryOut_iff.1 hcarry
    · cases he
      rw [hes _ List.mem_cons_self error rfl] at herror
      cases herror
    · cases hprojection : plan.projection? with
      | none =>
        rw [Plan.finish, hprojection] at hfinish
        cases (Action.course_pure_iff.1 hfinish).2
      | some projection =>
        rw [Plan.finish, hprojection] at hfinish
        obtain ⟨embedded, hembed, hsame⟩ := Action.course_bind_pure_iff.1 hfinish
        cases embedded with
        | ok _ => cases hsame
        | error e =>
          cases hsame
          have hlater : BlamesNoChain later := fun x hx => hes x (List.mem_cons_of_mem _ hx)
          obtain ⟨v, rfl, hv⟩ :=
            (Embed.course_embedAll_violation_iff hlater).1 ⟨hembed, herror⟩
          exact ⟨c', plan, projection, rows, later, v, hc, hplan, hprojection, rfl, hv, rfl⟩
  · rintro ⟨c', plan, projection, rows, later, v, hc, hplan, hprojection, rfl, hv, rfl⟩
    exact ⟨ends_of_refuses hc hplan hprojection hv, rfl, List.cons_ne_nil _ _⟩

/-! ### An insert that is refused too late -/

/-- An insert that wants a nested column that is not a name. -/
def insertWithBadName : InsertChain :=
  (insertInto "invoices" (.value (.obj [("id", .str "a")]))).select "id, customers(na-me)"

/-- Its statement is sent, and the nested column is refused when the inserted row has come back. -/
theorem exists_refused_plan : ∃ plan projection,
    (Chain.insert insertWithBadName).Plans {} plan ∧ plan.projection? = some projection ∧
      plan.statement = ⟨some "insert invoices",
        "INSERT INTO invoices (id) VALUES (?) RETURNING id", [.str "a"]⟩ ∧
      Embed.Refuses {} projection.nesting plan.table [Row.ofFields [("id", .str "a")]] []
        (.invalidCharacter "na-me" '-') := by
  have hrows : insertWithBadName.rows = .ok [Row.ofFields [("id", .str "a")]] := rfl
  have hkeyed : (({} : Client).keyedRows [Row.ofFields [("id", .str "a")]]).Course []
      (.ok [Row.ofFields [("id", .str "a")]]) :=
    Action.course_dialogue_iff.2 ⟨_, Dialogue.course_done_iff.2 ⟨rfl, rfl⟩, rfl⟩
  have hselection : Selection.parse insertWithBadName.returning = .ok ⟨"id",
      [{ table := "customers", alias? := none, columns := "na-me", inner := false }]⟩ :=
    (rfl : Selection.parse "id, customers(na-me)" = _)
  have hinside : Selection.parse "na-me" = .ok ⟨"na-me", []⟩ := rfl
  -- Before the insert goes out its own columns are compiled, the nested list is not.
  obtain ⟨columns, hcolumns, hcolumnsSql⟩ : ∃ columns, Selection.columns ⟨"id",
      [{ table := "customers", alias? := none, columns := "na-me", inner := false }]⟩ =
        .ok columns ∧ columns.map Column.sql = ["id"] := by
    refine ⟨_, rfl, ?_⟩
    rfl
  obtain ⟨i, hi, htable, hnames, hvalues⟩ : ∃ i,
      Payload.Insertion.compile "invoices" [Row.ofFields [("id", .str "a")]] = .ok i ∧
        i.table.sql = "invoices" ∧ i.columns.map Ident.sql = ["id"] ∧ i.rows = [[.str "a"]] := by
    refine ⟨_, rfl, ?_, ?_, ?_⟩ <;> rfl
  have hprojection : Projection.compile {} "invoices" insertWithBadName.returning =
      .ok ⟨columns, .ofRequests
        [{ table := "customers", alias? := none, columns := "na-me", inner := false }], []⟩ :=
    Projection.compile_eq_ok_iff.2 ⟨_, columns, hselection, hcolumns, rfl⟩
  have hcompile : insertWithBadName.compile {} [Row.ofFields [("id", .str "a")]] =
      .ok (.insert i.table i.columns i.rows none columns, _) :=
    InsertChain.compile_eq_ok_iff.2 ⟨i, hprojection, hi, rfl⟩
  have hsql : (Query.insert i.table i.columns i.rows none columns).sql =
      "INSERT INTO invoices (id) VALUES (?) RETURNING id" := by
    have h : (Query.insert i.table i.columns i.rows none columns).sql =
        "INSERT INTO " ++ i.table.sql ++ " (" ++ ", ".intercalate (i.columns.map Ident.sql) ++
          ") VALUES " ++ ", ".intercalate (i.rows.map Query.tupleSql) ++ "" ++
          (" RETURNING " ++ ", ".intercalate (columns.map Column.sql)) := rfl
    rw [h, htable, hnames, hvalues, hcolumnsSql]
    rfl
  have hparams : (Query.insert i.table i.columns i.rows none columns).params = [.str "a"] := by
    rw [Query.params, hvalues]
    rfl
  refine ⟨_, _, .insert hrows (List.cons_ne_nil _ _) hkeyed hcompile, rfl, ?_, ?_⟩
  · rw [Plan.statement, Query.statement, hsql, hparams]
    rfl
  -- The nested list is compiled for the lookup, once the insert is answered.
  · have hfound : ({} : Client).findRelation "invoices" "customers"
        [Row.ofFields [("id", .str "a")]] = .ok ⟨⟨"invoice_id", .hasMany⟩, .guessed false⟩ := rfl
    have hparts : Embed.Lookup.parts {}
        { table := "customers", alias? := none, columns := "na-me", inner := false }
        (.ok ⟨"na-me", []⟩) "invoice_id" = .error (.invalidCharacter "na-me" '-') := rfl
    rw [Nesting.ofRequests_cons_ok hinside, Nesting.ofRequests_nil]
    exact .here (List.cons_ne_nil _ _) hfound (List.cons_ne_nil _ _) hparts

/-- The row is inserted, and the chain answers that nothing was sent. -/
theorem ends_insertWithBadName :
    BlamesNoChain [⟨⟨some "insert invoices",
        "INSERT INTO invoices (id) VALUES (?) RETURNING id", [.str "a"]⟩,
      .ok [Row.ofFields [("id", .str "a")]]⟩] ∧
      (Chain.insert insertWithBadName).Ends {} [⟨⟨some "insert invoices",
          "INSERT INTO invoices (id) VALUES (?) RETURNING id", [.str "a"]⟩,
        .ok [Row.ofFields [("id", .str "a")]]⟩]
        (some (.validation (.invalidCharacter "na-me" '-'))) := by
  have hes : BlamesNoChain [⟨⟨some "insert invoices",
        "INSERT INTO invoices (id) VALUES (?) RETURNING id", [.str "a"]⟩,
      .ok [Row.ofFields [("id", .str "a")]]⟩] := by
    intro x hx e he
    rw [List.mem_singleton.1 hx] at he
    cases he
  obtain ⟨plan, projection, hplan, hprojection, hstatement, hrefuses⟩ := exists_refused_plan
  refine ⟨hes, ((ends_violation_after_sending_iff hes).2
    ⟨_, plan, projection, _, [], _, .inl rfl, hplan, hprojection, ?_, hrefuses, rfl⟩).1⟩
  rw [hstatement]

/-- A contract violation does not mean that nothing was sent. -/
theorem not_forall_violation_sends_nothing :
    ¬ ∀ (client : Client) (c : Chain) (es : List Exchange) (error : Error), BlamesNoChain es →
      c.Ends client es (some error) → error.isContractViolation = true → es = [] := by
  intro h
  obtain ⟨plan, projection, hplan, hprojection, -, hrefuses⟩ := exists_refused_plan
  have hes : BlamesNoChain [⟨plan.statement, .ok [Row.ofFields [("id", .str "a")]]⟩] := by
    intro x hx e he
    rw [List.mem_singleton.1 hx] at he
    cases he
  have hends := ends_of_refuses (.inl rfl) hplan hprojection hrefuses
  exact absurd (h _ _ _ _ hes hends rfl) (List.cons_ne_nil _ _)

end Chain

end Graft
