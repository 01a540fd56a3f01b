/-
Graft/Proofs/Chain/Stopping.lean

How an error of the engine ends a chain.

A chain sends its statements one after the other, and each only if those before
it were answered with rows.  So there is at most one error among the replies,
it is the last of them, and the chain ends in it:

    Stops es r      all exchanges of `es` were answered with rows, or all but
                    the last, whose error is what `r` reports

On its way out an error passes through all the relations that the failed lookup
is nested in.  They let it pass as it is, except that the engine's rejection of
a lookup may be laid on the guess that the lookup was made from
(`Error.Passed`); what has been laid on a guess is not changed again.
-/
import Graft.Proofs.Chain.Sending

namespace Graft

/-! ### Errors on their way out -/

/-- `e.Passed e'`: the engine's error `e` is reported as `e'`, which is the same error, or, for a
statement that failed inside the engine, a relation error that quotes its message. -/
inductive Error.Passed : Error → Error → Prop
  | same (e : Error) : Passed e e
  | blamed (owner related foreignKey message candidate : String) :
      Passed (.backend message)
        (.relation (.guessRejected owner related foreignKey message candidate))

/-- A relation that an error passes through reports it no differently, or blames its guess. -/
theorem Error.Passed.blameGuess {e e' : Error} (h : e.Passed e') (owner : String)
    (request : Request) (found : FoundRelation) :
    e.Passed (Embed.blameGuess owner request found e') := by
  cases h with
  | same =>
    unfold Embed.blameGuess
    split
    · split
      · exact .blamed _ _ _ _ _
      · exact .same _
    · exact .same _
  | blamed owner' related foreignKey message candidate =>
    exact .blamed owner' related foreignKey message candidate

/-! ### Exchanges up to an error -/

/-- The engine answered with rows. -/
def Exchange.Answered (x : Exchange) : Prop :=
  ∃ rows, x.reply = .ok rows

/-- `Stops es r`: the exchanges were all answered with rows, or all but the last, and then `r`
reports the error of that one. -/
inductive Stops {α : Type} : List Exchange → Except Error α → Prop
  | answered {es : List Exchange} {r : Except Error α} (h : ∀ x ∈ es, x.Answered) : Stops es r
  | failed {before : List Exchange} {st : Statement} {e e' : Error}
      (h : ∀ x ∈ before, x.Answered) (hpassed : e.Passed e') :
      Stops (before ++ [⟨st, .error e⟩]) (.error e')

namespace Stops

variable {α β : Type} {es later : List Exchange} {r : Except Error α}

/-- Where nothing was sent, nothing was answered with an error. -/
theorem nil (r : Except Error α) : Stops [] r :=
  .answered fun _ hx => (List.not_mem_nil hx).elim

/-- An error is reported where it is the only reply. -/
theorem singleton (st : Statement) (e : Error) :
    Stops [⟨st, .error e⟩] (.error e : Except Error α) := by
  have hnone : ∀ x ∈ ([] : List Exchange), x.Answered := fun _ hx => (List.not_mem_nil hx).elim
  exact .failed hnone (.same e)

/-- What ends without an error was answered with rows. -/
theorem answered_of_ok {a : α} (h : Stops es (.ok a)) : ∀ x ∈ es, x.Answered := by
  cases h with
  | answered h => exact h

/-- More exchanges may stand in front, if they were answered with rows. -/
theorem append_left (h : Stops later r) (hes : ∀ x ∈ es, x.Answered) :
    Stops (es ++ later) r := by
  have hboth : ∀ {more : List Exchange}, (∀ x ∈ more, x.Answered) →
      ∀ x ∈ es ++ more, x.Answered := by
    intro more hmore x hx
    rcases List.mem_append.1 hx with hx | hx
    · exact hes x hx
    · exact hmore x hx
  cases h with
  | answered h => exact .answered (hboth h)
  | failed h hpassed =>
    rw [← List.append_assoc]
    exact .failed (hboth h) hpassed

theorem cons {st : Statement} {rows : List Row} (h : Stops later r) :
    Stops (⟨st, .ok rows⟩ :: later) r := by
  have hfirst : ∀ x ∈ [(⟨st, .ok rows⟩ : Exchange)], x.Answered := by
    intro x hx
    rw [List.mem_singleton.1 hx]
    exact ⟨rows, rfl⟩
  exact h.append_left hfirst

/-- What is made of the rows does not matter, nor does a relation that the error passes through. -/
theorem map_blameGuess (h : Stops es r) (f : α → β) (owner : String) (request : Request)
    (found : FoundRelation) :
    Stops es ((r.mapError (Embed.blameGuess owner request found)).map f) := by
  cases h with
  | answered h => exact .answered h
  | failed h hpassed => exact .failed h (hpassed.blameGuess owner request found)

theorem map (h : Stops es r) (f : α → β) : Stops es (r.map f) := by
  cases h with
  | answered h => exact .answered h
  | failed h hpassed => exact .failed h hpassed

/-- Nothing comes after an error, and the result is that error. -/
theorem eq_nil_of_error (h : Stops es r) {before after : List Exchange} {st : Statement}
    {e : Error} (hes : es = before ++ ⟨st, .error e⟩ :: after) :
    after = [] ∧ ∃ e', r = .error e' ∧ e.Passed e' := by
  have herror : ∀ {others : List Exchange}, (∀ x ∈ others, x.Answered) →
      (⟨st, .error e⟩ : Exchange) ∉ others := by
    intro others hothers hmem
    obtain ⟨rows, hrows⟩ := hothers _ hmem
    cases hrows
  cases h with
  | answered h => exact absurd (by simp [hes]) (herror h)
  | @failed all last e₀ e' h hpassed =>
    -- the error stands last on the left, so it is the one on the right
    obtain rfl | ⟨init, y, rfl⟩ := after.eq_nil_or_concat
    · obtain ⟨rfl, hlast⟩ := List.append_inj' hes rfl
      cases hlast
      exact ⟨rfl, e', rfl, hpassed⟩
    · rw [List.concat_eq_append, ← List.cons_append, ← List.append_assoc] at hes
      obtain ⟨rfl, -⟩ := List.append_inj' hes rfl
      exact absurd (by simp) (herror h)

end Stops

/-! ### Embedding -/

namespace Embed

variable {client : Client} {rows : List Row} {es : List Exchange}

/-- Gathering stops at the engine's error, be it the reply to the lookup or to one inside it. -/
theorem Gathers.stops {request : Request} {selection : Except Violation Selection}
    {inside : List Row → Action (List Row)} {column : String} {keys : List Value}
    {g : Except Error Gathered}
    (hinside : ∀ replied later r, (inside replied).Course later r → Stops later r)
    (h : Gathers client request selection inside column keys es g) : Stops es g := by
  cases h with
  | nothing => exact .nil _
  | refused => exact .nil _
  | failed e => exact .singleton _ e
  | answered _ hcourse => exact ((hinside _ _ _ hcourse).map _).cons

theorem stops_of_course_embedOne {owner : String} {request : Request}
    {selection : Except Violation Selection} {inside : List Row → Action (List Row)}
    {r : Except Error (List Row)}
    (hinside : ∀ replied later r, (inside replied).Course later r → Stops later r)
    (h : (embedOne client owner request selection inside rows).Course es r) : Stops es r := by
  obtain ⟨-, rfl, -⟩ | ⟨-, e, -, rfl, -⟩ | ⟨-, found, g, -, hg, rfl⟩ := course_embedOne_iff.1 h
  · exact .nil r
  · exact .nil r
  · exact (hg.stops hinside).map_blameGuess _ owner request found

/-- Embedding stops at the engine's error. -/
theorem stops_of_course_embedAll {n : Nesting} {owner : String} {r : Except Error (List Row)}
    (h : (embedAll client n owner rows).Course es r) : Stops es r := by
  -- on the nesting: an error inside the first relation, or one after it
  induction n generalizing owner rows es r with
  | nil =>
    obtain ⟨rfl, -⟩ := Action.course_pure_iff.1 h
    exact .nil r
  | cons request selection inside rest ihinside ihrest =>
    have hone : ∀ {es r}, (embedOne client owner request selection
        (embedAll client inside request.table) rows).Course es r → Stops es r :=
      fun h => stops_of_course_embedOne (fun _ _ _ hcourse => ihinside hcourse) h
    rw [embedAll, Action.course_bind_iff] at h
    obtain ⟨e, h, rfl⟩ | ⟨mid, es₁, es₂, h₁, h₂, rfl⟩ := h
    · exact hone h
    · exact (ihrest h₂).append_left (hone h₁).answered_of_ok

end Embed

/-! ### Chains -/

section

variable {client : Client} {es : List Exchange} {r : Except Error (List Row)}

theorem Plan.stops_of_course_finish {p : Plan} {rows : List Row}
    (h : (p.finish client rows).Course es r) : Stops es r := by
  cases hprojection : p.projection? with
  | none =>
    rw [((course_finish_none_iff hprojection).1 h).1]
    exact .nil r
  | some projection =>
    obtain ⟨embedded, hembed, rfl⟩ := (course_finish_iff hprojection).1 h
    exact (Embed.stops_of_course_embedAll hembed).map _

theorem Plan.stops_of_course_carryOut {p : Plan} (h : (p.carryOut client).Course es r) :
    Stops es r := by
  obtain ⟨e, rfl, rfl⟩ | ⟨rows, later, rfl, hfinish⟩ := course_carryOut_iff.1 h
  · exact .singleton _ e
  · exact (stops_of_course_finish hfinish).cons

/-- The run of a chain stops at the engine's error. -/
theorem Chain.stops_of_course_run {c : Chain} (h : (c.run client).Course es r) : Stops es r := by
  by_cases hes : es = []
  · rw [hes]
    exact .nil r
  · obtain ⟨plan, -, hcarry⟩ := (course_run_iff hes).1 h
    exact Plan.stops_of_course_carryOut hcarry

end

/-- `response.Heeds es`: an error among the replies is the last of them, leaves no data, and is the
error of the response, passed on as it is or laid on a guess; and a response without an error has
none among its replies. -/
structure Response.Heeds {α : Type} (es : List Exchange) (response : Response α) : Prop where
  last : ∀ before st e after, es = before ++ ⟨st, .error e⟩ :: after →
    after = [] ∧ response.data? = none ∧ ∃ e', response.error? = some e' ∧ e.Passed e'
  answered : response.error? = none → ∀ x ∈ es, x.Answered

theorem Stops.heeds {es : List Exchange} {r : Except Error (List Row)} (h : Stops es r) :
    (Response.ofExcept r).Heeds es where
  last before st e after hes := by
    obtain ⟨rfl, e', rfl, hpassed⟩ := h.eq_nil_of_error hes
    exact ⟨rfl, rfl, e', rfl, hpassed⟩
  answered hok := by
    cases r with
    | error e => cases hok
    | ok rows => exact h.answered_of_ok

/-- Taking the first row only changes nothing about errors. -/
theorem Response.Heeds.first {es : List Exchange} {response : Response (List Row)}
    (h : response.Heeds es) : response.first.Heeds es where
  last before st e after hes := by
    obtain ⟨rfl, hdata, e', herror, hpassed⟩ := h.last before st e after hes
    cases response with
    | ran rows => cases herror
    | failed e'' => exact ⟨rfl, rfl, e', herror, hpassed⟩
  answered hok := by
    cases response with
    | ran rows => exact h.answered rfl
    | failed e => cases hok

/-- **No error of the engine is swallowed.**  If the engine answers a statement of a chain with an
error, the chain sends nothing after it, has no data, and reports that error, or a relation error
that quotes it where it is the rejection of a guess; and if a chain reports no error, then all its
statements were answered with rows.  This is so for chains of every verb, for all rows or a single
one, whatever is nested in what they want of their rows. -/
theorem Chain.heeds_errors {client : Client} {c : Chain} {es : List Exchange} :
    (∀ response, (c.execute client).Course es response → response.Heeds es) ∧
      ∀ response, (c.executeSingle client).Course es response → response.Heeds es := by
  constructor
  · intro response h
    obtain ⟨r, hrun, rfl⟩ := course_execute_iff.1 h
    exact (stops_of_course_run hrun).heeds
  · intro response h
    obtain ⟨r, hrun, rfl⟩ := course_executeSingle_iff.1 h
    exact (stops_of_course_run hrun).heeds.first

/-! ### A guess that the engine rejects -/

/-- Invoices with their customers, of which nothing is registered. -/
def guessedCustomers : SelectChain :=
  Chain.selectFrom "invoices" "number, customers(name)"

/-- The request of the chain. -/
def customersRequest : Request where
  table := "customers"
  alias? := none
  columns := "name"
  inner := false

/-- The rejection of the lookup that is sent for the customers. -/
def rejectedGuess : Error :=
  .relation (.guessRejected "invoices" "customers" "invoice_id" "no such column: invoice_id"
    "customer_id")

/-- The statement of the chain is answered with an invoice, its lookup with an error. -/
def guessedExchanges : List Exchange :=
  [⟨⟨some "select invoices", "SELECT number, id FROM invoices", []⟩,
      .ok [Row.ofFields [("number", .str "7"), ("id", .str "1")]]⟩,
    ⟨⟨some "embed customers", "SELECT name, invoice_id FROM customers WHERE invoice_id IN (?)",
      [.str "1"]⟩, .error (.backend "no such column: invoice_id")⟩]

/-- The lookup is made from a guess, and is rejected. -/
theorem course_embed_guessedCustomers :
    (Embed.embedAll {} (.ofRequests [customersRequest]) "invoices"
      [Row.ofFields [("number", .str "7"), ("id", .str "1")]]).Course
      (guessedExchanges.drop 1) (.error rejectedGuess) := by
  obtain ⟨parts, hparts, hstatement⟩ : ∃ parts,
      Embed.Lookup.parts {} customersRequest (.ok ⟨"name", []⟩) "invoice_id" = .ok parts ∧
      parts.statement "customers" [.str "1"] = ⟨some "embed customers",
        "SELECT name, invoice_id FROM customers WHERE invoice_id IN (?)", [.str "1"]⟩ := by
    refine ⟨_, rfl, ?_⟩
    rfl
  have hname : Selection.parse customersRequest.columns = .ok ⟨"name", []⟩ := rfl
  have hfound : ({} : Client).findRelation "invoices" customersRequest.table
      [Row.ofFields [("number", .str "7"), ("id", .str "1")]] =
        .ok ⟨⟨"invoice_id", .hasMany⟩, .guessed false⟩ := rfl
  rw [Nesting.ofRequests_cons_ok hname, Nesting.ofRequests_nil, Embed.embedAll_singleton]
  refine (Embed.course_embedOne_found_iff (List.cons_ne_nil _ _) hfound).2
    ⟨.error (.backend "no such column: invoice_id"), ?_, rfl⟩
  refine (Embed.gathers_iff_of_parts (List.cons_ne_nil _ _) hparts).2 ⟨.error _, [], ?_, rfl, rfl⟩
  show guessedExchanges.drop 1 = [⟨parts.statement "customers" [.str "1"], _⟩]
  rw [hstatement]
  rfl

theorem course_run_guessedCustomers :
    ((Chain.select guessedCustomers).run {}).Course guessedExchanges (.error rejectedGuess) := by
  have hparse : Selection.parse "number, customers(name)" =
      .ok ⟨"number", [customersRequest]⟩ := rfl
  have hensure : Selection.ensure ⟨"number", [customersRequest]⟩
      (({} : Client).keyColumns "invoices" [customersRequest]) =
        (⟨"number, id", [customersRequest]⟩, ["id"]) := rfl
  have hcolumns : (Selection.columns ⟨"number, id", [customersRequest]⟩).map
      (List.map Column.sql) = .ok ["number", "id"] := rfl
  have htable : (Ident.parse "invoices").map Ident.sql = .ok "invoices" := rfl
  exact Chain.course_run_selectFrom hparse hensure hcolumns htable course_embed_guessedCustomers

/-- The engine rejects the lookup by the guessed key, and the chain reports that of the guess. -/
theorem Chain.heeds_errors_guessedCustomers :
    ((Chain.select guessedCustomers).execute {}).Course guessedExchanges
        (.failed rejectedGuess) ∧
      (.failed rejectedGuess : Response (List Row)).Heeds guessedExchanges ∧
      Error.Passed (.backend "no such column: invoice_id") rejectedGuess := by
  have hcourse : ((Chain.select guessedCustomers).execute {}).Course guessedExchanges
      (.failed rejectedGuess) :=
    course_execute_iff.2 ⟨_, course_run_guessedCustomers, rfl⟩
  have hheeds := Chain.heeds_errors.1 _ hcourse
  obtain ⟨-, -, e', herror, hpassed⟩ := hheeds.last (guessedExchanges.take 1) _ _ [] rfl
  cases herror
  exact ⟨hcourse, hheeds, hpassed⟩

end Graft
