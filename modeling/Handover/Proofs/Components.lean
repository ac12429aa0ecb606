/-
  Paths, their bytes and their components.

  1. **Bytes** — the UTF-8 form of a text holds the byte of a separator only where the text holds
     the separator (`slash_mem_ofString`, `isAbsolute_ofString_iff`).
  2. **Joining** — a relative path is put behind another one byte for byte, with at most one
     separator between them (`join_of_relative`).
  3. **Pieces** — a separator divides the pieces of a path (`pieces_append`, by induction on the
     bytes before it).  The start of a path is told by the bytes before the first separator, so it
     stays what it is when more is put behind (`unanchor_append`).
  4. **Components** — a name that is joined to a path becomes its last component, for every spelling
     of the path (`components_join`); so it is the name of the file (`fileName?_join`).
-/
import Handover.Path

namespace Handover

/-! ## Bytes -/

/-- A byte below 128 in the UTF-8 form of a character is the whole character. -/
theorem toNat_of_mem_utf8EncodeChar {c : Char} {b : UInt8} (h : b ∈ String.utf8EncodeChar c)
    (hb : b.toNat < 128) : c.toNat = b.toNat := by
  have hc : c.val.toNat = c.toNat := rfl
  unfold String.utf8EncodeChar at h
  simp only [hc] at h
  split at h
  case isTrue hone =>
    rw [List.mem_singleton] at h
    subst h
    rw [UInt8.toNat_ofNat'] at hb ⊢
    omega
  case isFalse =>
    -- All bytes of a longer form are 128 or more.
    have hlong : 128 ≤ b.toNat := by
      split at h
      case isTrue =>
        simp only [List.mem_cons, List.not_mem_nil, or_false] at h
        rcases h with rfl | rfl <;> rw [UInt8.toNat_ofNat'] <;> omega
      case isFalse =>
        split at h
        case isTrue =>
          simp only [List.mem_cons, List.not_mem_nil, or_false] at h
          rcases h with rfl | rfl | rfl <;> rw [UInt8.toNat_ofNat'] <;> omega
        case isFalse =>
          simp only [List.mem_cons, List.not_mem_nil, or_false] at h
          rcases h with rfl | rfl | rfl | rfl <;> rw [UInt8.toNat_ofNat'] <;> omega
    omega

namespace Path

theorem ofString_append (s t : String) : ofString (s ++ t) = ofString s ++ ofString t := by
  unfold ofString Text.encode
  rw [String.toList_append, Text.encodeChars_append]

/-- Different texts have different paths. -/
theorem ofString_inj {s t : String} : ofString s = ofString t ↔ s = t := by
  rw [← String.toByteArray_inj, ← String.utf8Encode_toList, ← String.utf8Encode_toList]
  exact List.toByteArray_inj.symm

theorem slash_mem_ofString {text : String} (h : slash ∈ ofString text) : '/' ∈ text.toList := by
  obtain ⟨c, hc, hb⟩ := List.mem_flatMap.mp h
  have hslash : c = '/' := Char.toNat_inj.mp (toNat_of_mem_utf8EncodeChar hb (by decide))
  exact hslash ▸ hc

/-- The path of a text is absolute exactly if the text begins with a separator. -/
theorem isAbsolute_ofString_iff {text : String} :
    isAbsolute (ofString text) = true ↔ text.toList.head? = some '/' := by
  unfold isAbsolute ofString Text.encode
  cases text.toList with
  | nil => decide
  | cons c rest =>
    rw [Text.encodeChars_cons, beq_iff_eq, List.head?_cons, Option.some.injEq]
    constructor
    · intro h
      -- The first byte is one of the first character.
      have hmem : slash ∈ String.utf8EncodeChar c := by
        cases hbytes : String.utf8EncodeChar c with
        | nil =>
          have hlength := String.length_utf8EncodeChar c
          rw [hbytes] at hlength
          exact absurd hlength.symm (Nat.ne_of_gt c.utf8Size_pos)
        | cons b more =>
          rw [hbytes, List.cons_append, List.head?_cons] at h
          rw [Option.some.inj h]
          exact List.mem_cons_self
      exact Char.toNat_inj.mp (toNat_of_mem_utf8EncodeChar hmem (by decide))
    · rintro rfl
      rfl

/-! ## Joining -/

theorem isAbsolute_of_slash_notMem {p : Path} (h : slash ∉ p) : isAbsolute p = false := by
  cases p with
  | nil => rfl
  | cons b rest =>
    have hb : b ≠ slash := fun hb => h (hb ▸ List.mem_cons_self)
    simpa [isAbsolute] using hb

/-- What comes between a directory and a name in it: a separator, unless the directory has one at
    its end or is not named. -/
def separatorAfter (dir : Path) : Bytes :=
  if dir = [] ∨ dir.getLast? = some slash then [] else [slash]

/-- **A relative path is put behind another one as it is.** -/
theorem join_of_relative {base tail : Path} (h : isAbsolute tail = false) :
    join base tail = base ++ separatorAfter base ++ tail := by
  unfold join separatorAfter
  rw [h, if_neg Bool.false_ne_true]
  split
  · rw [List.append_nil]
  · rw [List.append_assoc, List.singleton_append]

/-- A name in a directory has a separator before it, unless the directory is the empty path. -/
theorem slash_mem_join_iff {base tail : Path} (h : slash ∉ tail) :
    slash ∈ join base tail ↔ base ≠ [] := by
  rw [join_of_relative (isAbsolute_of_slash_notMem h), separatorAfter]
  by_cases hnil : base = []
  · rw [if_pos (Or.inl hnil), hnil]
    exact iff_of_false h (fun hne => hne rfl)
  · refine iff_of_true (List.mem_append_left _ ?_) hnil
    by_cases hlast : base.getLast? = some slash
    · exact List.mem_append_left _ (List.mem_of_getLast? hlast)
    · rw [if_neg (not_or.mpr ⟨hnil, hlast⟩)]
      exact List.mem_append_right _ List.mem_cons_self

theorem join_nil {tail : Path} (h : slash ∉ tail) : join [] tail = tail := by
  rw [join_of_relative (isAbsolute_of_slash_notMem h)]
  rfl

/-! ## Pieces -/

theorem pieces_ne_nil (bytes : Bytes) : pieces bytes ≠ [] := by
  cases bytes with
  | nil => exact List.cons_ne_nil _ _
  | cons b rest =>
    rw [pieces]
    split
    · exact List.cons_ne_nil _ _
    · split <;> exact List.cons_ne_nil _ _

/-- **A separator divides the pieces.** -/
theorem pieces_append (before after : Bytes) :
    pieces (before ++ slash :: after) = pieces before ++ pieces after := by
  induction before with
  | nil => rfl
  | cons b rest ih =>
    rw [List.cons_append, pieces, pieces]
    by_cases hb : b = slash
    · rw [if_pos hb, if_pos hb, ih, List.cons_append]
    · rw [if_neg hb, if_neg hb, ih]
      cases hrest : pieces rest with
      | nil => exact absurd hrest (pieces_ne_nil rest)
      | cons piece more => rfl

theorem pieces_of_slash_notMem {name : Bytes} (h : slash ∉ name) : pieces name = [name] := by
  induction name with
  | nil => rfl
  | cons b rest ih =>
    rw [List.mem_cons, not_or] at h
    obtain ⟨hb, hrest⟩ := h
    rw [pieces, if_neg (Ne.symm hb), ih hrest]

/-- The start of a path stays what it is when more is put behind a separator. -/
theorem unanchor_append {p : Path} (hp : p ≠ []) (after : Bytes) :
    unanchor (p ++ slash :: after) = ((unanchor p).1, (unanchor p).2 ++ slash :: after) := by
  cases p with
  | nil => exact absurd rfl hp
  | cons b rest =>
    rw [List.cons_append, unanchor, unanchor]
    by_cases hb : b = slash
    · rw [if_pos hb, if_pos hb]
    · rw [if_neg hb, if_neg hb]
      -- A leading `.` stands for itself if a separator comes next, there or from behind.
      have hstart : (rest ++ slash :: after = [] ∨ (rest ++ slash :: after).head? = some slash) ↔
          (rest = [] ∨ rest.head? = some slash) := by
        cases rest with
        | nil => simp
        | cons c more => simp
      by_cases hcurrent : b = dot ∧ (rest = [] ∨ rest.head? = some slash)
      · rw [if_pos hcurrent, if_pos ⟨hcurrent.1, hstart.mpr hcurrent.2⟩]
      · rw [if_neg hcurrent, if_neg fun h => hcurrent ⟨h.1, hstart.mp h.2⟩, List.cons_append]

/-! ## Components -/

theorem components_eq (p : Path) : components p
    = (unanchor p).1.components ++ (pieces (unanchor p).2).filterMap Component.ofPiece? := rfl

/-- What is put behind a separator adds its pieces to the components. -/
theorem components_append {p : Path} (hp : p ≠ []) (after : Bytes) :
    components (p ++ slash :: after)
      = components p ++ (pieces after).filterMap Component.ofPiece? := by
  rw [components_eq, components_eq, unanchor_append hp, pieces_append, List.filterMap_append,
    List.append_assoc]

/-- Without a separator there is one piece. -/
theorem filterMap_pieces {name : Bytes} (h : slash ∉ name) :
    (pieces name).filterMap Component.ofPiece? = (Component.ofPiece? name).toList := by
  rw [pieces_of_slash_notMem h, List.filterMap_cons]
  cases Component.ofPiece? name with
  | none => rfl
  | some c => rfl

/-- Only the empty text and the dot are silent. -/
theorem isSilent_ofString {text : String} (h : text ∉ ["", "."]) :
    isSilent (ofString text) = false := by
  rw [List.mem_cons, List.mem_singleton, not_or] at h
  rw [isSilent, Bool.or_eq_false_iff, beq_eq_false_iff_ne, beq_eq_false_iff_ne]
  exact ⟨fun heq => h.1 (ofString_inj.mp heq), fun heq => h.2 (ofString_inj.mp heq)⟩

/-- A name by itself has no start. -/
theorem components_of_name {name : Path} (hslash : slash ∉ name) (hloud : isSilent name = false) :
    components name = (Component.ofPiece? name).toList := by
  have hanchor : unanchor name = (.none, name) := by
    cases name with
    | nil => rfl
    | cons b rest =>
      rw [List.mem_cons, not_or] at hslash
      obtain ⟨hb, hrest⟩ := hslash
      rw [unanchor, if_neg (Ne.symm hb), if_neg]
      rintro ⟨rfl, rfl | hhead⟩
      · exact absurd hloud (by decide)
      · exact hrest (List.mem_of_mem_head? hhead)
  rw [components_eq, hanchor]
  exact filterMap_pieces hslash

/-- **A name that is joined to a path becomes its last component**, however the path is spelled. -/
theorem components_join (base : Path) {name : Path} (hslash : slash ∉ name)
    (hloud : isSilent name = false) :
    components (join base name) = components base ++ (Component.ofPiece? name).toList := by
  have hname := filterMap_pieces hslash
  rw [join_of_relative (isAbsolute_of_slash_notMem hslash), separatorAfter]
  by_cases hnil : base = []
  · rw [if_pos (Or.inl hnil), hnil]
    exact components_of_name hslash hloud
  · by_cases hlast : base.getLast? = some slash
    · -- The separator is there already, and with nothing behind it adds nothing.
      rw [if_pos (Or.inr hlast)]
      obtain ⟨front, rfl⟩ := List.getLast?_eq_some_iff.mp hlast
      rw [List.append_nil, List.append_assoc, List.singleton_append]
      by_cases hroot : front = []
      · rw [hroot, ← hname]
        rfl
      · rw [components_append hroot, components_append hroot, hname]
        congr 1
        exact (List.append_nil _).symm
    · rw [if_neg (not_or.mpr ⟨hnil, hlast⟩), List.append_assoc, List.singleton_append,
        components_append hnil, hname]

/-- The name of the file that a path names: its last component, if this is a name. -/
def fileName? (p : Path) : Option Bytes :=
  match (components p).getLast? with
  | some (.name bytes) => some bytes
  | _ => none

/-- **A name that is joined to a path is the name of the file.** -/
theorem fileName?_join (base : Path) {name : Path} (hslash : slash ∉ name)
    (hloud : isSilent name = false) (hup : name ≠ [dot, dot]) :
    fileName? (join base name) = some name := by
  have hpiece : Component.ofPiece? name = some (.name name) := by
    rw [Component.ofPiece?, hloud, if_neg Bool.false_ne_true, if_neg hup]
  unfold fileName?
  rw [components_join base hslash hloud, hpiece, Option.toList_some, List.getLast?_concat]

/-! ## Readings -/

example : fileName? (ofString "a//b/.") = some (ofString "b") := by decide
example : fileName? (ofString "a/..") = none := by decide

end Path

end Handover
