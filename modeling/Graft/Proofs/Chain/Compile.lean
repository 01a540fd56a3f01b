/-
Graft/Proofs/Chain/Compile.lean

What compiled chains are made of.

Compiling is a row of steps of which each may fail; it succeeds exactly when
all of them do.  There is one equivalence for each verb, which names the parts
that the query is put together from.
-/
import Graft.Chain
import Graft.Proofs.Embed.Splice

namespace Graft

variable {client : Client} {query : Query} {projection : Projection}

/-! ### Parts -/

theorem Projection.compile_eq_ok_iff {table expr : String} :
    compile client table expr = .ok projection ↔
      ∃ s columns, Selection.parse expr = .ok s ∧
        (s.ensure (client.keyColumns table s.relations)).1.columns = .ok columns ∧
        projection = ⟨columns, .ofRequests s.relations,
          (s.ensure (client.keyColumns table s.relations)).2⟩ := by
  simp only [compile, bind_eq_ok_iff, Selection.ensure_relations]
  constructor
  · rintro ⟨s, hs, columns, hcolumns, h⟩
    cases h
    exact ⟨s, columns, hs, hcolumns, rfl⟩
  · rintro ⟨s, columns, hs, hcolumns, rfl⟩
    exact ⟨s, hs, columns, hcolumns, rfl⟩

theorem Payload.Insertion.compile_eq_ok_iff {table : String} {rows : List Row} {i : Insertion} :
    compile table rows = .ok i ↔
      ∃ columns ident, Ident.parseAll (columnUnion rows) = .ok columns ∧
        Ident.parse table = .ok ident ∧
        i = ⟨ident, columnUnion rows, columns, rows.map (cellsIn (columnUnion rows))⟩ := by
  simp only [compile, bind_eq_ok_iff]
  constructor
  · rintro ⟨columns, hcolumns, ident, hident, h⟩
    cases h
    exact ⟨columns, ident, hcolumns, hident, rfl⟩
  · rintro ⟨columns, ident, hcolumns, hident, rfl⟩
    exact ⟨columns, hcolumns, ident, hident, rfl⟩

theorem Filters.compile_eq_ok_iff {f : Filters} {clause : Clause} :
    f.compile = .ok clause ↔ f.validate = .ok () ∧ Clause.compile f.conditions = .ok clause := by
  simp only [compile, bind_eq_ok_iff, check_eq_ok_iff]
  constructor
  · rintro ⟨_, hvalid, hclause⟩
    exact ⟨hvalid, hclause⟩
  · rintro ⟨hvalid, hclause⟩
    exact ⟨(), hvalid, hclause⟩

/-! ### Verbs -/

theorem SelectChain.compile_eq_ok_iff {c : SelectChain} :
    c.compile client = .ok (query, projection) ↔
      ∃ clause table order, Projection.compile client c.table c.columns = .ok projection ∧
        c.filters.compile = .ok clause ∧ Ident.parse c.table = .ok table ∧
        OrderTerm.compileAll c.order = .ok order ∧
        query = .select projection.columns table clause order c.window? := by
  simp only [compile, bind_eq_ok_iff, check_eq_ok_iff]
  constructor
  · rintro ⟨p, hp, clause, hclause, table, htable, order, horder, h⟩
    cases h
    exact ⟨clause, table, order, hp, hclause, htable, horder, rfl⟩
  · rintro ⟨clause, table, order, hp, hclause, htable, horder, rfl⟩
    exact ⟨projection, hp, clause, hclause, table, htable, order, horder, rfl⟩

theorem InsertChain.compile_eq_ok_iff {c : InsertChain} {rows : List Row} :
    c.compile client rows = .ok (query, projection) ↔
      ∃ i, Projection.compile client c.table c.returning = .ok projection ∧
        Payload.Insertion.compile c.table rows = .ok i ∧
        query = .insert i.table i.columns i.rows none projection.columns := by
  simp only [compile, bind_eq_ok_iff, check_eq_ok_iff]
  constructor
  · rintro ⟨p, hp, i, hi, h⟩
    cases h
    exact ⟨i, hp, hi, rfl⟩
  · rintro ⟨i, hp, hi, rfl⟩
    exact ⟨projection, hp, i, hi, rfl⟩

theorem UpsertChain.compile_eq_ok_iff {c : UpsertChain} {conflict : List String}
    {rows : List Row} :
    c.compile client conflict rows = .ok (query, projection) ↔
      ∃ target i updates, Ident.parseAll conflict = .ok target ∧
        Payload.Insertion.compile c.table rows = .ok i ∧
        Ident.parseAll (updatedColumns client conflict i.names) = .ok updates ∧
        Projection.compile client c.table c.returning = .ok projection ∧
        query = .insert i.table i.columns i.rows
          (some ⟨target, if c.ignoreDuplicates then [] else updates⟩) projection.columns := by
  simp only [compile, bind_eq_ok_iff, check_eq_ok_iff]
  constructor
  · rintro ⟨target, htarget, i, hi, updates, hupdates, p, hp, h⟩
    cases h
    exact ⟨target, i, updates, htarget, hi, hupdates, hp, rfl⟩
  · rintro ⟨target, i, updates, htarget, hi, hupdates, hp, rfl⟩
    exact ⟨target, htarget, i, hi, updates, hupdates, projection, hp, rfl⟩

theorem UpdateChain.compile_eq_ok_iff {c : UpdateChain} {values : Row} :
    c.compile client values = .ok (query, projection) ↔
      ∃ clause assigned table, Projection.compile client c.table c.returning = .ok projection ∧
        values.cells ≠ [] ∧ c.filters.compile = .ok clause ∧
        assignments values = .ok assigned ∧ Ident.parse c.table = .ok table ∧
        query = .update table assigned clause projection.columns := by
  simp only [compile, bind_eq_ok_iff, check_eq_ok_iff]
  constructor
  · rintro ⟨p, hp, h⟩
    split at h
    · cases h
    · next hcells =>
      simp only [bind_eq_ok_iff, check_eq_ok_iff] at h
      obtain ⟨clause, hclause, assigned, hassigned, table, htable, h⟩ := h
      cases h
      exact ⟨clause, assigned, table, hp, by simpa using hcells, hclause, hassigned, htable, rfl⟩
  · rintro ⟨clause, assigned, table, hp, hcells, hclause, hassigned, htable, rfl⟩
    refine ⟨projection, hp, ?_⟩
    rw [if_neg (by simpa using hcells)]
    simp only [bind_eq_ok_iff, check_eq_ok_iff]
    exact ⟨clause, hclause, assigned, hassigned, table, htable, rfl⟩

theorem DeleteChain.compile_eq_ok_iff {c : DeleteChain} {projection? : Option Projection} :
    c.compile client = .ok (query, projection?) ↔
      ∃ clause table, c.filters.compile = .ok clause ∧ Ident.parse c.table = .ok table ∧
        c.projection? client = .ok projection? ∧
        query = .delete table clause (projection?.map (·.columns)) := by
  simp only [compile, bind_eq_ok_iff, check_eq_ok_iff]
  constructor
  · rintro ⟨clause, hclause, table, htable, p, hp, h⟩
    cases h
    exact ⟨clause, table, hclause, htable, hp, rfl⟩
  · rintro ⟨clause, table, hclause, htable, hp, rfl⟩
    exact ⟨clause, hclause, table, htable, projection?, hp, rfl⟩

end Graft
