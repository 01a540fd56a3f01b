/-
Graft/Ident.lean

Identifiers: the names of tables and columns as they stand in a statement.

A name is made of parts joined by dots.  A bare part is a letter or underscore
followed by letters, digits, underscores and dollar signs, all ASCII; a quoted
part is any non-empty text without NUL between double quotes, in which a double
quote is written twice.

`Ident` is the type of names that satisfy this grammar, so a statement made of
identifiers holds nothing else outside its double quotes.  `Ident.parse` is the
only way from a text to an identifier and tells what is wrong with a text that
is none.
-/
import Graft.Error
import Graft.Text.Blank
import Graft.Traversal

namespace Graft

/-! ### Parts of a name -/

/-- One part of a name. -/
inductive Part where
  | bare (text : String)
  /-- A part between double quotes; `text` is what they enclose, its doubled quotes undone. -/
  | quoted (text : String)
  deriving DecidableEq

namespace Part

/-- The characters that a bare part may start with. -/
def isLead (c : Char) : Bool :=
  c == '_' || c.isAlpha

/-- The characters that a bare part may go on with. -/
def isTail (c : Char) : Bool :=
  c == '_' || c == '$' || c.isAlphanum

/-- The first character for which a non-empty text is not bare. -/
def firstInvalid : List Char → Option Char
  | [] => none
  | c :: rest => if isLead c then rest.find? (!isTail ·) else some c

/-- Whether a text can stand without quotes. -/
def IsBare (s : List Char) : Prop :=
  s ≠ [] ∧ firstInvalid s = none

/-- What the parts of an identifier satisfy. -/
def WellFormed : Part → Prop
  | .bare text => IsBare text.toList
  | .quoted text => text.toList ≠ [] ∧ '\x00' ∉ text.toList

/-- Every double quote twice. -/
def doubleQuotes : List Char → List Char
  | [] => []
  | c :: rest => if c = '"' then '"' :: '"' :: doubleQuotes rest else c :: doubleQuotes rest

/-- The text whose double quotes were doubled; none if one stands alone. -/
def undoubleQuotes? : List Char → Option (List Char)
  | [] => some []
  | '"' :: '"' :: rest => (undoubleQuotes? rest).map ('"' :: ·)
  | c :: rest => if c = '"' then none else (undoubleQuotes? rest).map (c :: ·)

/-- The part as it stands in a statement. -/
def chars : Part → List Char
  | .bare text => text.toList
  | .quoted text => '"' :: (doubleQuotes text.toList ++ ['"'])

/-- What a double quote at the start of a part makes of the rest of that part. -/
def readQuoted (name : String) (inner : List Char) : Except Violation Part :=
  if inner.getLast? ≠ some '"' then .error (.textAfterQuotes name)
  else if inner.dropLast = [] then .error (.misquotedName name)
  else
    match undoubleQuotes? inner.dropLast with
    | none => .error (.misquotedName name)
    | some text => .ok (.quoted (String.ofList text))

/-- The part that the characters between two dots of `name` are. -/
def read (name : String) : List Char → Except Violation Part
  | [] => .error (.emptySegment name)
  | '"' :: inner => readQuoted name inner
  | segment =>
    match firstInvalid segment with
    | some c => .error (.invalidCharacter name c)
    | none => .ok (.bare (String.ofList segment))

end Part

/-! ### Segments -/

/-- Cut at the dots outside double quotes; none if a double quote stays open.  `inside` tells
whether the text starts within double quotes. -/
def segments? (inside : Bool) : List Char → Option (List (List Char))
  | [] => if inside then none else some [[]]
  | c :: rest =>
    if c = '.' ∧ inside = false then (segments? false rest).map ([] :: ·)
    else (segments? (if c = '"' then !inside else inside) rest).map (List.modifyHead (c :: ·))

theorem mem_of_mem_segments? {inside : Bool} {s : List Char} {segs : List (List Char)}
    (h : segments? inside s = some segs) : ∀ seg ∈ segs, ∀ c ∈ seg, c ∈ s := by
  induction s generalizing inside segs with
  | nil =>
    cases inside <;> simp [segments?] at h
    subst h
    simp
  | cons d rest ih =>
    rw [segments?] at h
    -- A dot outside quotes opens a segment, any other character joins the first one.
    split at h
    · obtain ⟨t, ht, rfl⟩ := Option.map_eq_some_iff.1 h
      intro seg hseg c hc
      rcases List.mem_cons.1 hseg with rfl | hseg
      · simp at hc
      · exact List.mem_cons_of_mem _ (ih ht seg hseg c hc)
    · obtain ⟨t, ht, rfl⟩ := Option.map_eq_some_iff.1 h
      cases t with
      | nil => simp
      | cons first t =>
        intro seg hseg c hc
        rcases List.mem_cons.1 hseg with rfl | hseg
        · rcases List.mem_cons.1 hc with rfl | hc
          · simp
          · exact List.mem_cons_of_mem _ (ih ht first (by simp) c hc)
        · exact List.mem_cons_of_mem _ (ih ht seg (by simp [hseg]) c hc)

theorem segments?_ne_nil {inside : Bool} {s : List Char} {segs : List (List Char)}
    (h : segments? inside s = some segs) : segs ≠ [] := by
  induction s generalizing inside segs with
  | nil =>
    cases inside <;> simp [segments?] at h
    simp [← h]
  | cons d rest ih =>
    rw [segments?] at h
    split at h
    · obtain ⟨t, _, rfl⟩ := Option.map_eq_some_iff.1 h
      simp
    · obtain ⟨t, ht, rfl⟩ := Option.map_eq_some_iff.1 h
      cases t with
      | nil => exact absurd rfl (ih ht)
      | cons first t => simp

/-! ### Reading parts -/

theorem Part.mem_of_mem_undoubleQuotes? {s t : List Char} (h : undoubleQuotes? s = some t) :
    ∀ c ∈ t, c ∈ s := by
  fun_induction undoubleQuotes? s generalizing t with
  | case1 => simp_all
  | case2 rest ih =>
    obtain ⟨u, hu, rfl⟩ := Option.map_eq_some_iff.1 h
    intro c hc
    rcases List.mem_cons.1 hc with rfl | hc
    · simp
    · simp [ih hu c hc]
  | case3 => simp at h
  | case4 c rest _ hc ih =>
    obtain ⟨u, hu, rfl⟩ := Option.map_eq_some_iff.1 h
    intro d hd
    rcases List.mem_cons.1 hd with rfl | hd
    · simp
    · simp [ih hu d hd]

theorem Part.undoubleQuotes?_eq_nil {s : List Char} (h : undoubleQuotes? s = some []) : s = [] := by
  fun_induction undoubleQuotes? s with
  | case1 => rfl
  | case2 => simp at h
  | case3 => simp at h
  | case4 => simp at h

theorem Part.wellFormed_of_readQuoted {name : String} {inner : List Char} {p : Part}
    (h : readQuoted name inner = .ok p) (hnul : '\x00' ∉ inner) : p.WellFormed := by
  rw [readQuoted] at h
  split at h
  · simp at h
  · split at h
    · simp at h
    · next hbody =>
      split at h
      · simp at h
      · next text htext =>
        obtain rfl := Except.ok.inj h
        rw [WellFormed, String.toList_ofList]
        refine ⟨fun ht => ?_, fun ht => ?_⟩
        · subst ht
          exact hbody (undoubleQuotes?_eq_nil htext)
        · exact hnul (List.dropLast_subset _ (mem_of_mem_undoubleQuotes? htext _ ht))

theorem Part.wellFormed_of_read {name : String} {segment : List Char} {p : Part}
    (h : read name segment = .ok p) (hnul : '\x00' ∉ segment) : p.WellFormed := by
  unfold read at h
  split at h
  · simp at h
  · exact wellFormed_of_readQuoted h fun hc => hnul (List.mem_cons_of_mem _ hc)
  · next hnil _ =>
    split at h
    · simp at h
    · next hvalid =>
      obtain rfl := Except.ok.inj h
      rw [WellFormed, IsBare, String.toList_ofList]
      exact ⟨hnil, hvalid⟩

/-- The parts of a name. -/
def readParts (raw : String) : Except Violation (List Part) :=
  let name := Text.trim raw.toList
  if name = [] then .error .emptyName
  else if '\x00' ∈ name then .error .nulInName
  else
    match segments? false name with
    | none => .error (.unclosedQuote (String.ofList name))
    | some segs => segs.mapM (Part.read (String.ofList name))

theorem readParts_sound {raw : String} {parts : List Part} (h : readParts raw = .ok parts) :
    parts ≠ [] ∧ ∀ p ∈ parts, p.WellFormed := by
  simp only [readParts] at h
  split at h
  · simp at h
  · split at h
    · simp at h
    · next hnul =>
      split at h
      · simp at h
      · next segs hsegs =>
        refine ⟨fun hp => ?_, forall_of_mapM_ok h fun seg hseg p hp =>
          Part.wellFormed_of_read hp fun hc => hnul (mem_of_mem_segments? hsegs seg hseg _ hc)⟩
        have := length_of_mapM_ok h
        rw [hp, List.length_nil] at this
        exact segments?_ne_nil hsegs (List.eq_nil_of_length_eq_zero this.symm)

/-! ### Identifiers -/

/-- A name that satisfies the grammar. -/
structure Ident where
  parts : List Part
  nonempty : parts ≠ []
  wellFormed : ∀ p ∈ parts, p.WellFormed

namespace Ident

/-- The identifier that a text is, blanks around it aside. -/
def parse (raw : String) : Except Violation Ident :=
  match h : readParts raw with
  | .error v => .error v
  | .ok parts => .ok ⟨parts, (readParts_sound h).1, (readParts_sound h).2⟩

theorem parse_eq_ok_iff {raw : String} {i : Ident} :
    parse raw = .ok i ↔ readParts raw = .ok i.parts := by
  obtain ⟨parts, _, _⟩ := i
  rw [parse]
  split
  · next v h => simp [h]
  · next ps h => simp [h]

theorem parse_eq_error_iff {raw : String} {v : Violation} :
    parse raw = .error v ↔ readParts raw = .error v := by
  rw [parse]
  split
  · next w h => simp [h]
  · next ps h => simp [h]

/-- The identifiers that some texts are. -/
def parseAll (raws : List String) : Except Violation (List Ident) :=
  raws.mapM parse

/-- The characters of the identifier in a statement. -/
def chars (i : Ident) : List Char :=
  ['.'].intercalate (i.parts.map Part.chars)

/-- The identifier as it stands in a statement. -/
def sql (i : Ident) : String :=
  String.ofList i.chars

end Ident

end Graft
