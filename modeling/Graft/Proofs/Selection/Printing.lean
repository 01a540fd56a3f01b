/-
Graft/Proofs/Selection/Printing.lean

Printing a selection and reading it again.

A selection is printed as its column list and its relations, with commas
between them, and a relation as it is written in an expression:

    alias:table!inner(columns)

where the alias and the hint stand only if there are any.  Reading what was
printed gives the selection back (`parse_print`).

That no cut moves is known from what the reader leaves behind.  It cuts at the
first colon, the first exclamation mark and the first parenthesis, so what
stands before one of these is free of it; and it takes away blanks wherever it
cuts (`HeadParts`, `Request.Readable`).  Of the columns of a relation nothing
is known but that the parenthesis in front of them closes at their end; they
need not be balanced themselves.
-/
import Graft.Proofs.Selection.Keys

namespace Graft

/-! ### Heads -/

namespace Selection

/-- What is known of the alias and the table of a head that was read. -/
structure HeadParts (alias? : Option (List Char)) (table : List Char) : Prop where
  trimmed : Text.trim table = table
  noMark : '!' ∉ table
  /-- Without an alias, a head has no colon to cut at. -/
  noColon : alias? = none → ':' ∉ table
  named : ∀ a, alias? = some a → Text.trim a = a ∧ ':' ∉ a

/-- A table with a hint, as it is written. -/
def writeTarget (table : List Char) : Option (List Char) → List Char
  | none => table
  | some hint => table ++ ['!'] ++ hint

/-- A head as it is written. -/
def writeHead (alias? : Option (List Char)) (table : List Char) (hint? : Option (List Char)) :
    List Char :=
  match alias? with
  | none => writeTarget table hint?
  | some a => a ++ [':'] ++ writeTarget table hint?

/-- A head behind its alias, taken apart. -/
def readTarget (alias? : Option (List Char)) (target : List Char) :
    Option (List Char) × List Char × Option (List Char) :=
  match Text.cut '!' target with
  | some (t, h) => (alias?, Text.trim t, some (Text.trim h))
  | none => (alias?, target, none)

variable {alias? hint? : Option (List Char)} {head table target : List Char}

theorem readHead_of_cut_none (h : Text.cut ':' (Text.trim head) = none) :
    readHead head = readTarget none (Text.trim head) := by
  rw [readHead, h]
  rfl

theorem readHead_of_cut_some {before after : List Char}
    (h : Text.cut ':' (Text.trim head) = some (before, after)) :
    readHead head = readTarget (some (Text.trim before)) (Text.trim after) := by
  rw [readHead, h]
  rfl

/-- The table is what stands before the mark, or all of the target. -/
theorem table_of_readTarget {a? : Option (List Char)} (htrim : Text.trim target = target)
    (h : readTarget a? target = (alias?, table, hint?)) :
    a? = alias? ∧ Text.trim table = table ∧ '!' ∉ table ∧ ∀ c ∈ table, c ∈ target := by
  rw [readTarget] at h
  split at h
  · next before after hcut =>
    cases h
    obtain ⟨htarget, hmark⟩ := Text.cut_eq_some_iff.1 hcut
    refine ⟨rfl, Text.trim_trim before, fun hmem => hmark (Text.mem_of_mem_trim hmem), ?_⟩
    intro c hc
    rw [htarget]
    exact List.mem_append_left _ (Text.mem_of_mem_trim hc)
  · next hcut =>
    cases h
    exact ⟨rfl, htrim, Text.cut_eq_none_iff.1 hcut, fun _ hc => hc⟩

theorem headParts_of_readHead (h : readHead head = (alias?, table, hint?)) :
    HeadParts alias? table ∧ (∀ c ∈ table, c ∈ head) ∧
      ∀ a, alias? = some a → ∀ c ∈ a, c ∈ head := by
  -- Up to the first colon stands the alias; without a colon the head is the target.
  cases hcut : Text.cut ':' (Text.trim head) with
  | none =>
    rw [readHead_of_cut_none hcut] at h
    obtain ⟨rfl, htrim, hmark, hmem⟩ := table_of_readTarget (Text.trim_trim head) h
    have hcolon := Text.cut_eq_none_iff.1 hcut
    refine ⟨⟨htrim, hmark, fun _ hc => hcolon (hmem _ hc), ?_⟩, ?_, ?_⟩
    · intro a ha
      cases ha
    · exact fun c hc => Text.mem_of_mem_trim (hmem c hc)
    · intro a ha
      cases ha
  | some cut =>
    obtain ⟨before, after⟩ := cut
    rw [readHead_of_cut_some hcut] at h
    obtain ⟨rfl, htrim, hmark, hmem⟩ := table_of_readTarget (Text.trim_trim after) h
    obtain ⟨hhead, hcolon⟩ := Text.cut_eq_some_iff.1 hcut
    have hsub : ∀ c, c ∈ before ∨ c ∈ after → c ∈ head := by
      intro c hc
      apply Text.mem_of_mem_trim
      rw [hhead]
      simp only [List.mem_append, List.mem_cons]
      exact hc.imp_right .inr
    refine ⟨⟨htrim, hmark, ?_, ?_⟩, ?_, ?_⟩
    · intro ha
      cases ha
    · intro a ha
      cases ha
      exact ⟨Text.trim_trim before, fun hmem => hcolon (Text.mem_of_mem_trim hmem)⟩
    · exact fun c hc => hsub c (.inr (Text.mem_of_mem_trim (hmem c hc)))
    · intro a ha
      cases ha
      exact fun c hc => hsub c (.inl (Text.mem_of_mem_trim hc))

section

variable (h : HeadParts alias? table) (htable : table ≠ []) (halias : ∀ a, alias? = some a → a ≠ [])
  (hhint : ∀ hint, hint? = some hint → hint ≠ [] ∧ Text.trim hint = hint ∧ ':' ∉ hint)

include h htable hhint in
theorem trim_writeTarget :
    writeTarget table hint? ≠ [] ∧ Text.trim (writeTarget table hint?) = writeTarget table hint? := by
  cases hint? with
  | none => exact ⟨htable, h.trimmed⟩
  | some hint =>
    obtain ⟨hsome, htrim, -⟩ := hhint hint rfl
    exact ⟨by simp [writeTarget], Text.trim_append htable h.trimmed hsome htrim ['!']⟩

include h hhint in
theorem readTarget_writeTarget :
    readTarget alias? (writeTarget table hint?) = (alias?, table, hint?) := by
  cases hint? with
  | none => simp [readTarget, writeTarget, Text.cut_eq_none_iff.2 h.noMark]
  | some hint =>
    have hcut : Text.cut '!' (writeTarget table (some hint)) = some (table, hint) :=
      Text.cut_eq_some_iff.2 ⟨by simp [writeTarget], h.noMark⟩
    simp [readTarget, hcut, h.trimmed, (hhint hint rfl).2.1]

include h htable halias hhint

theorem trim_writeHead : writeHead alias? table hint? ≠ [] ∧
    Text.trim (writeHead alias? table hint?) = writeHead alias? table hint? := by
  obtain ⟨hsome, htrim⟩ := trim_writeTarget h htable hhint
  cases alias? with
  | none => exact ⟨hsome, htrim⟩
  | some a =>
    obtain ⟨ha, -⟩ := h.named a rfl
    exact ⟨by simp [writeHead], Text.trim_append (halias a rfl) ha hsome htrim [':']⟩

/-- A head that is written from parts as they are read is read as these parts. -/
theorem readHead_writeHead :
    readHead (writeHead alias? table hint?) = (alias?, table, hint?) := by
  obtain ⟨-, htarget⟩ := trim_writeTarget h htable hhint
  obtain ⟨-, hhead⟩ := trim_writeHead h htable halias hhint
  have hread := readTarget_writeTarget h hhint
  -- A table that is written without an alias has no colon.
  cases alias? with
  | none =>
    have hcut : Text.cut ':' (writeTarget table hint?) = none := by
      apply Text.cut_eq_none_iff.2
      cases hint? with
      | none => exact h.noColon rfl
      | some hint => simp [writeTarget, h.noColon rfl, (hhint hint rfl).2.2]
    rw [← htarget] at hcut
    rw [writeHead, readHead_of_cut_none hcut, htarget, hread]
  | some a =>
    obtain ⟨ha, hcolon⟩ := h.named a rfl
    have hcut : Text.cut ':' (writeHead (some a) table hint?) =
        some (a, writeTarget table hint?) :=
      Text.cut_eq_some_iff.2 ⟨by simp [writeHead], hcolon⟩
    rw [← hhead] at hcut
    rw [readHead_of_cut_some hcut, ha, htarget, hread]

end

/-- The columns of a relation are kept without blanks around them, and never blank. -/
theorem trim_orStar_trim (body : List Char) :
    orStar (Text.trim body) ≠ [] ∧
      Text.trim (orStar (Text.trim body)) = orStar (Text.trim body) := by
  rw [orStar]
  split
  · exact ⟨List.cons_ne_nil _ _, rfl⟩
  · next hsome => exact ⟨hsome, Text.trim_trim body⟩

end Selection

/-! ### Requests -/

namespace Request

/-- The hint as it is printed; an outer join needs none. -/
def hint? (r : Request) : Option (List Char) :=
  if r.inner then some ['i', 'n', 'n', 'e', 'r'] else none

/-- What is printed before the parenthesis. -/
def head (r : Request) : List Char :=
  Selection.writeHead (r.alias?.map String.toList) r.table.toList r.hint?

/-- The request as it is printed. -/
def chars (r : Request) : List Char :=
  r.head ++ '(' :: (r.columns.toList ++ [')'])

/-- What is known of a request that was read. -/
structure Readable (r : Request) : Prop where
  parts : Selection.HeadParts (r.alias?.map String.toList) r.table.toList
  table : ∃ i, Ident.parse r.table = .ok i
  named : ∀ a, r.alias? = some a → ∃ i, Ident.parse a = .ok i
  plain : ∀ c ∈ r.head, c ∉ ['(', ')', ',']
  nonempty : r.columns.toList ≠ []
  trimmed : Text.trim r.columns.toList = r.columns.toList
  /-- The parenthesis in front of the columns closes at their end. -/
  closing : Selection.uncut? 1 (r.columns.toList ++ [')']) = some 0

variable {r : Request}

theorem hint?_eq_some (hint : List Char) (h : r.hint? = some hint) :
    hint = ['i', 'n', 'n', 'e', 'r'] := by
  rw [hint?] at h
  split at h
  · cases h
    rfl
  · cases h

theorem hint?_ends (hint : List Char) (h : r.hint? = some hint) :
    hint ≠ [] ∧ Text.trim hint = hint ∧ ':' ∉ hint := by
  obtain rfl := hint?_eq_some hint h
  exact ⟨by decide, rfl, by decide⟩

/-- A printed head has no other characters than its parts, but for the signs between them. -/
theorem mem_head {c : Char} (h : c ∈ r.head) :
    c ∈ r.table.toList ∨ (∃ a, r.alias? = some a ∧ c ∈ a.toList) ∨
      c ∈ [':', '!', 'i', 'n', 'n', 'e', 'r'] := by
  -- Beyond the table a target has only the characters of its hint.
  have htarget : c ∈ Selection.writeTarget r.table.toList r.hint? →
      c ∈ r.table.toList ∨ c ∈ [':', '!', 'i', 'n', 'n', 'e', 'r'] := by
    intro h
    cases hhint : r.hint? with
    | none =>
      rw [hhint] at h
      exact .inl h
    | some hint =>
      rw [hhint, Selection.writeTarget, hint?_eq_some hint hhint, List.append_assoc] at h
      exact (List.mem_append.1 h).imp_right fun h => List.mem_cons_of_mem _ h
  cases halias : r.alias? with
  | none =>
    rw [head, halias] at h
    exact (htarget h).imp_right .inr
  | some a =>
    rw [head, halias] at h
    rcases List.mem_append.1 h with h | h
    · rcases List.mem_append.1 h with h | h
      · exact .inr (.inl ⟨a, rfl, h⟩)
      · rw [List.mem_singleton.1 h]
        exact .inr (.inr List.mem_cons_self)
    · exact (htarget h).imp_right .inr

/-- What was read from a piece. -/
theorem readable_of_readItem {text : List Char} (hpiece : Selection.IsPiece text)
    (h : Selection.readItem text = .ok (.relation r)) : r.Readable := by
  obtain ⟨-, hitem⟩ | ⟨head, tail, r, rfl, hopen, hr, hitem⟩ := Selection.readItem_eq_ok_iff.1 h
  · cases hitem
  · cases hitem
    obtain ⟨body, alias?, table, hint?, rfl, hhead, -, htable, halias, hr⟩ :=
      Selection.readRelation_eq_ok_iff.1 hr
    obtain ⟨hparts, hmemTable, hmemAlias⟩ := Selection.headParts_of_readHead hhead
    obtain ⟨hclose, hcomma, hclosing⟩ := (Selection.isPiece_append_iff hopen).1 hpiece
    -- A piece has no comma or parenthesis before the one it is opened by.
    have hplain : ∀ c ∈ head, c ∉ ['(', ')', ','] := by
      intro c hc hmem
      simp only [List.mem_cons, List.not_mem_nil, or_false] at hmem
      rcases hmem with rfl | rfl | rfl
      · exact hopen hc
      · exact hclose hc
      · exact hcomma hc
    have hsigns : ∀ c ∈ [':', '!', 'i', 'n', 'n', 'e', 'r'], c ∉ ['(', ')', ','] := by
      simp
    have htableText : r.table.toList = table := by
      rw [hr, String.toList_ofList]
    have haliasText : r.alias?.map String.toList = alias? := by
      rw [hr]
      cases alias? <;> simp
    have hnamed : ∀ a, r.alias? = some a → alias? = some a.toList := by
      intro a ha
      rw [← haliasText, ha, Option.map_some]
    have hcolumns : r.columns.toList = Selection.orStar (Text.trim body) := by
      rw [hr, String.toList_ofList]
    obtain ⟨hsome, htrim⟩ := Selection.trim_orStar_trim body
    rw [← hcolumns] at hsome htrim
    refine ⟨?_, ?_, ?_, ?_, hsome, htrim, ?_⟩
    · rwa [htableText, haliasText]
    · rwa [← htableText, String.ofList_toList] at htable
    · intro a ha
      have hparse := halias _ (hnamed a ha)
      rwa [String.ofList_toList] at hparse
    · intro c hc
      rcases mem_head hc with hc | ⟨a, ha, hc⟩ | hc
      · rw [htableText] at hc
        exact hplain c (hmemTable c hc)
      · exact hplain c (hmemAlias _ (hnamed a ha) c hc)
      · exact hsigns c hc
    · rwa [Selection.uncut?_append, hcolumns, Selection.follows_uncut?.orStar,
        ← Selection.uncut?_append]

namespace Readable

variable (h : r.Readable)

include h

theorem table_ne_nil : r.table.toList ≠ [] := by
  obtain ⟨i, hi⟩ := h.table
  rw [← h.parts.trimmed]
  exact Ident.trim_ne_nil_of_parse hi

theorem alias_ne_nil (a : List Char) (ha : r.alias?.map String.toList = some a) : a ≠ [] := by
  obtain ⟨a, halias, rfl⟩ := Option.map_eq_some_iff.1 ha
  obtain ⟨i, hi⟩ := h.named a halias
  rw [← (h.parts.named _ ha).1]
  exact Ident.trim_ne_nil_of_parse hi

/-- A request that was printed is read as it was. -/
theorem readItem_chars : Selection.readItem r.chars = .ok (.relation r) := by
  have hread := Selection.readHead_writeHead h.parts h.table_ne_nil h.alias_ne_nil r.hint?_ends
  refine Selection.readItem_eq_ok_iff.2 (.inr ⟨r.head, _, r, rfl, ?_, ?_, rfl⟩)
  · exact fun hopen => h.plain _ hopen (by simp)
  · refine Selection.readRelation_eq_ok_iff.2 ⟨r.columns.toList, _, _, _, rfl, hread, ?_, ?_, ?_, ?_⟩
    · rw [hint?]
      cases r.inner <;> rfl
    · rw [String.ofList_toList]
      exact h.table
    · intro a ha
      obtain ⟨a, halias, rfl⟩ := Option.map_eq_some_iff.1 ha
      rw [String.ofList_toList]
      exact h.named a halias
    · obtain ⟨table, alias?, columns, inner⟩ := r
      rw [h.trimmed, Selection.orStar, if_neg h.nonempty]
      cases alias? <;> simp

theorem trim_chars : r.chars ≠ [] ∧ Text.trim r.chars = r.chars := by
  obtain ⟨hsome, htrim⟩ :=
    Selection.trim_writeHead h.parts h.table_ne_nil h.alias_ne_nil r.hint?_ends
  refine ⟨by simp [chars], ?_⟩
  have hends := Text.trim_append hsome htrim (List.cons_ne_nil ')' []) rfl ('(' :: r.columns.toList)
  rwa [List.append_assoc] at hends

theorem isPiece_chars : Selection.IsPiece r.chars := by
  refine (Selection.isPiece_append_iff ?_).2 ⟨?_, ?_, h.closing⟩
  · exact fun hopen => h.plain _ hopen (by simp)
  · exact fun hclose => h.plain _ hclose (by simp)
  · exact fun hcomma => h.plain _ hcomma (by simp)

end Readable

end Request

namespace Selection

/-! ### Selections -/

/-- The selection as it is printed. -/
def print (s : Selection) : String :=
  String.ofList ([','].intercalate (s.base.toList :: s.relations.map Request.chars))

theorem readable_of_parse {expr : String} {s : Selection} (h : parse expr = .ok s) :
    ∀ r ∈ s.relations, r.Readable := by
  obtain ⟨ps, items, hps, hitems, rfl⟩ := parse_eq_ok_iff.1 h
  have hreadable : ∀ item ∈ items, ∀ r, item.request? = some r → r.Readable := by
    refine forall_of_mapM_ok hitems fun text htext item hitem r hr => ?_
    obtain ⟨-, -, hpiece⟩ := isPiece_of_mem_itemTexts hps htext
    cases item with
    | column t => cases hr
    | relation r' =>
      cases hr
      exact Request.readable_of_readItem hpiece hitem
  intro r hr
  obtain ⟨item, hitem, hrequest⟩ := List.mem_filterMap.1 hr
  exact hreadable item hitem r hrequest

/-- Joining what was joined from some texts with others is joining all of them. -/
theorem intercalate_intercalate_cons {sep : List Char} {ps : List (List Char)} (h : ps ≠ [])
    (qs : List (List Char)) :
    sep.intercalate (sep.intercalate ps :: qs) = sep.intercalate (ps ++ qs) := by
  induction ps with
  | nil => exact absurd rfl h
  | cons p ps ih =>
    cases ps with
    | nil => rw [List.intercalate_singleton, List.singleton_append]
    | cons q ps =>
      have ih := ih (List.cons_ne_nil q ps)
      rw [List.cons_append, List.cons_append, List.intercalate_cons_cons,
        List.intercalate_cons_cons, ← List.cons_append, ← ih]
      cases qs with
      | nil => simp
      | cons r qs => simp [List.intercalate_cons_cons]

/-- The pieces of a printed column list: its columns, and a blank before each but the first. -/
def columnPieces : List (List Char) → List (List Char)
  | [] => []
  | t :: rest => t :: rest.map (' ' :: ·)

theorem intercalate_columnPieces (texts : List (List Char)) :
    [','].intercalate (columnPieces texts) = [',', ' '].intercalate texts := by
  cases texts with
  | nil => rfl
  | cons t rest =>
    show [','].intercalate (t :: rest.map (' ' :: ·)) = _
    induction rest generalizing t with
    | nil => rw [List.map_nil, List.intercalate_singleton, List.intercalate_singleton]
    | cons u rest ih =>
      -- the blank in front of the second column goes to the separator
      have hblank : [','].intercalate ((' ' :: u) :: rest.map (' ' :: ·)) =
          ' ' :: [','].intercalate (u :: rest.map (' ' :: ·)) := by
        cases rest <;> simp [List.intercalate_cons_cons]
      rw [List.map_cons, List.intercalate_cons_cons, List.intercalate_cons_cons, hblank, ih u]
      simp

section

variable {texts : List (List Char)} {requests : List Request}
  (hplain : ∀ t ∈ texts, Plain t) (hreadable : ∀ r ∈ requests, r.Readable)

include hplain

theorem map_trim_columnPieces : (columnPieces texts).map Text.trim = texts := by
  cases texts with
  | nil => rfl
  | cons t rest =>
    have hid : ∀ u ∈ t :: rest, Text.trim u = u := fun u hu => (hplain u hu).trimmed
    have hblanks : (Text.trim ∘ fun u => ' ' :: u) = Text.trim := by
      funext u
      exact trim_space_cons u
    rw [columnPieces, List.map_cons, List.map_map, hblanks, ← List.map_cons,
      List.map_congr_left hid, List.map_id']

theorem isPiece_of_mem_columnPieces : ∀ p ∈ columnPieces texts, IsPiece p := by
  have hpiece : ∀ t ∈ texts, IsPiece t := fun t ht =>
    uncut?_of_plain (hplain t ht).noOpen (hplain t ht).noClose (hplain t ht).noComma 0
  intro p hp
  cases texts with
  | nil => cases hp
  | cons t rest =>
    rcases List.mem_cons.1 hp with rfl | hp
    · exact hpiece p List.mem_cons_self
    · obtain ⟨u, hu, rfl⟩ := List.mem_map.1 hp
      exact hpiece u (List.mem_cons_of_mem _ hu)

/-- A list of columns is no star unless it is one that was written. -/
theorem orStar_intercalate (htexts : texts ≠ []) :
    orStar ([',', ' '].intercalate texts) = [',', ' '].intercalate texts := by
  obtain ⟨t, rest, rfl⟩ := List.exists_cons_of_ne_nil htexts
  have ht := (hplain t List.mem_cons_self).nonempty
  rw [orStar, if_neg]
  cases rest <;> simp [List.intercalate_cons_cons, ht]

include hreadable

/-- What is printed is cut between the columns and the relations. -/
theorem splitTopLevel_printed (htexts : texts ≠ []) :
    splitTopLevel ([','].intercalate ([',', ' '].intercalate texts :: requests.map Request.chars)) =
      .ok (columnPieces texts ++ requests.map Request.chars) := by
  have hcolumns : columnPieces texts ≠ [] := by
    obtain ⟨t, rest, rfl⟩ := List.exists_cons_of_ne_nil htexts
    exact List.cons_ne_nil _ _
  refine splitTopLevel_eq_ok_iff_joined.2 ⟨by simp [hcolumns], ?_, ?_⟩
  · intro p hp
    rcases List.mem_append.1 hp with hp | hp
    · exact isPiece_of_mem_columnPieces hplain p hp
    · obtain ⟨r, hr, rfl⟩ := List.mem_map.1 hp
      exact (hreadable r hr).isPiece_chars
  · rw [← intercalate_columnPieces, intercalate_intercalate_cons hcolumns]

theorem itemTexts_printed :
    itemTexts (columnPieces texts ++ requests.map Request.chars) =
      texts ++ requests.map Request.chars := by
  have hid : ∀ r ∈ requests, Text.trim r.chars = r.chars := fun r hr => (hreadable r hr).trim_chars.2
  rw [itemTexts, List.map_append, map_trim_columnPieces hplain, List.map_map,
    List.map_congr_left (f := Text.trim ∘ Request.chars) hid]
  refine List.filter_eq_self.2 fun text htext => decide_eq_true ?_
  rcases List.mem_append.1 htext with htext | htext
  · exact (hplain text htext).nonempty
  · obtain ⟨r, hr, rfl⟩ := List.mem_map.1 htext
    exact (hreadable r hr).trim_chars.1

theorem mapM_readItem_printed :
    (texts ++ requests.map Request.chars).mapM readItem =
      .ok (texts.map Item.column ++ requests.map Item.relation) := by
  have hcolumns : ∀ t ∈ texts, readItem t = .ok (.column t) := fun t ht =>
    readItem_eq_ok_iff.2 (.inl ⟨(hplain t ht).noOpen, rfl⟩)
  have hrelations : ∀ r ∈ requests, readItem r.chars = .ok (.relation r) := fun r hr =>
    (hreadable r hr).readItem_chars
  rw [mapM_eq_ok_iff, List.map_append, List.map_append, List.map_map, List.map_map, List.map_map]
  congr 1
  · exact List.map_congr_left hcolumns
  · exact List.map_congr_left hrelations

end

theorem ofItems_printed (texts : List (List Char)) (requests : List Request) :
    ofItems (texts.map Item.column ++ requests.map Item.relation) =
      ⟨String.ofList (orStar ([',', ' '].intercalate texts)), requests⟩ := by
  simp [ofItems, List.filterMap_map, Function.comp_def, Item.column?, Item.request?]

/-- **Reading what was printed.**  If a selection was read from an expression, then it is printed as
an expression that it is read from again. -/
theorem parse_print {expr : String} {s : Selection} (h : parse expr = .ok s) :
    parse s.print = .ok s := by
  obtain ⟨texts, htexts, hbase, hplain⟩ := columns_of_parse h
  have hreadable := readable_of_parse h
  have hsplit := splitTopLevel_printed hplain hreadable htexts
  have hitems := mapM_readItem_printed hplain hreadable
  rw [← itemTexts_printed hplain hreadable] at hitems
  refine parse_eq_ok_iff.2 ⟨_, _, ?_, hitems, ?_⟩
  · rwa [print, String.toList_ofList, hbase, String.toList_ofList]
  · rw [ofItems_printed, orStar_intercalate hplain htexts, ← hbase]

/-- Blanks are printed where they are kept, and a star where there were no columns. -/
theorem parse_print_orders :
    ∃ s, parse "a , \"x!y\":\"o:r\"!inner( id , l(*) ), total : sum,\tl!left()" = .ok s ∧
      s.print = "a, total : sum,\"x!y\":\"o:r\"!inner(id , l(*)),l(*)" ∧
      parse s.print = .ok s := by
  have hread : parse "a , \"x!y\":\"o:r\"!inner( id , l(*) ), total : sum,\tl!left()" =
      .ok ⟨"a, total : sum",
        [⟨"\"o:r\"", some "\"x!y\"", "id , l(*)", true⟩, ⟨"l", none, "*", false⟩]⟩ := rfl
  exact ⟨_, hread, rfl, parse_print hread⟩

end Selection

end Graft
