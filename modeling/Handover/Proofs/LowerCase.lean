/-
  Lower-casing a text twice is lower-casing it once, and leaves the signs in it alone.

  1. **Rows** — no capital of one row becomes a capital of another.  Rows are too long to be looked
     through letter by letter, but where a row lands and which letters another row holds are both
     told by their ends and steps (`LowerRow.misses`), so it is enough to look at pairs of rows
     (`rows_miss`).
  2. **Letters** — so what a letter becomes is *settled*: it is held by no row, and stays what it is
     (`settled_lowerSimple`, `lowerSimple_of_settled`).
  3. **Texts** — a text in lower case is made of settled letters, also where a letter depends on
     its neighbours, and such a text is left alone (`settled_lowerFrom`, `lowerFrom_of_settled`).
  4. **Signs** — a sign such as the dot is settled and no letter becomes it (`Fixed`), so it stands
     in the lower-case form of a text exactly if it stands in the text (`mem_lower_iff`).
-/
import Handover.Text.LowerCase

namespace Handover.Text

/-! ## Rows -/

/-- The capital I with a dot, as a row of its own. -/
def dottedRow : LowerRow := ⟨0x130, 0x130, 1, 0⟩

/-- Everything that is changed by lower-casing. -/
def capitalRows : List LowerRow := dottedRow :: lowerRows

/-- What the first row becomes is not held by the second: it lies before it or behind it, or falls
    between its letters. -/
def LowerRow.misses (r t : LowerRow) : Bool :=
  let low := (r.first + r.shift).toNat
  let high := (r.last + r.shift).toNat
  high.blt t.first || t.last.blt low ||
    (t.step == 2 && (r.step == 2 || r.first == r.last) && low != 0 && (low + t.first) % 2 == 1)

theorem rows_miss {r t : LowerRow} (hr : r ∈ lowerRows) (ht : t ∈ capitalRows) :
    r.misses t = true := by
  have hall : (lowerRows.all fun r => capitalRows.all r.misses) = true := by decide +kernel
  exact List.all_eq_true.mp (List.all_eq_true.mp hall r hr) t ht

theorem LowerRow.holds_iff {row : LowerRow} {n : Nat} :
    row.holds n = true ↔ row.first ≤ n ∧ n ≤ row.last ∧ (n - row.first) % row.step = 0 := by
  unfold LowerRow.holds
  rw [Bool.and_eq_true, Bool.and_eq_true, decide_eq_true_iff, decide_eq_true_iff, beq_iff_eq,
    and_assoc]

/-- A letter of the first row does not become one of the second. -/
theorem LowerRow.holds_of_misses {r t : LowerRow} {n : Nat} (h : r.misses t = true)
    (hn : r.holds n = true) : t.holds (n + r.shift).toNat = false := by
  obtain ⟨hfirst, hlast, hstep⟩ := holds_iff.mp hn
  rw [← Bool.not_eq_true, holds_iff]
  rintro ⟨hfirst', hlast', hstep'⟩
  simp only [misses, Bool.or_eq_true, Bool.and_eq_true, Nat.blt_eq, beq_iff_eq, bne_iff_ne] at h
  obtain (hbefore | hbehind) | ⟨⟨⟨ht, hr⟩, hpos⟩, hodd⟩ := h
  · omega
  · omega
  · rw [ht] at hstep'
    rcases hr with hr | hr
    · rw [hr] at hstep
      omega
    · omega

/-! ## Letters -/

/-- A letter that lower-casing does not change. -/
def Settled (c : Char) : Prop := ∀ row ∈ capitalRows, row.holds c.toNat = false

instance (c : Char) : Decidable (Settled c) := inferInstanceAs (Decidable (∀ _ ∈ _, _))

/-- The letter of a number that no row holds is settled, even where the number is no letter's. -/
theorem settled_ofNat {n : Nat} (h : ∀ row ∈ capitalRows, row.holds n = false) :
    Settled (Char.ofNat n) := by
  by_cases hvalid : n.isValidChar
  · rw [show Char.ofNat n = Char.ofNatAux n hvalid from dif_pos hvalid]
    exact h
  · rw [show Char.ofNat n = '\x00' from dif_neg hvalid]
    decide +kernel

theorem settled_lowerSimple {c : Char} (h : c ≠ 'İ') : Settled (lowerSimple c) := by
  unfold lowerSimple
  cases hfind : lowerRows.find? fun row => row.holds c.toNat with
  | some row =>
    have hrow := List.mem_of_find?_eq_some hfind
    have hholds := List.find?_some hfind
    exact settled_ofNat fun t ht => LowerRow.holds_of_misses (rows_miss hrow ht) hholds
  | none =>
    refine List.forall_mem_cons.mpr ⟨?_, fun row hrow => ?_⟩
    · rw [← Bool.not_eq_true, LowerRow.holds_iff]
      rintro ⟨hfirst, hlast, -⟩
      exact h (Char.toNat_inj.mp (Nat.le_antisymm hlast hfirst))
    · exact Bool.not_eq_true _ ▸ List.find?_eq_none.mp hfind row hrow

theorem lowerSimple_of_settled {c : Char} (h : Settled c) : lowerSimple c = c := by
  have hfind : lowerRows.find? (fun row => row.holds c.toNat) = none :=
    List.find?_eq_none.mpr fun row hrow => Bool.not_eq_true _ ▸ h row (List.mem_cons_of_mem _ hrow)
  unfold lowerSimple
  rw [hfind]

/-! ## Texts -/

/-- A text in lower case is made of settled letters. -/
theorem settled_lowerFrom (before cs : List Char) : ∀ c ∈ lowerFrom before cs, Settled c := by
  induction cs generalizing before with
  | nil => exact List.forall_mem_nil _
  | cons c rest ih =>
    unfold lowerFrom
    refine List.forall_mem_append.mpr ⟨?_, ih (c :: before)⟩
    split
    case isTrue =>
      have hboth : Settled 'ς' ∧ Settled 'σ' := by decide +kernel
      split
      · exact List.forall_mem_singleton.mpr hboth.1
      · exact List.forall_mem_singleton.mpr hboth.2
    case isFalse =>
      split
      case isTrue =>
        have hboth : Settled 'i' ∧ Settled '\u0307' := by decide +kernel
        exact List.forall_mem_cons.mpr ⟨hboth.1, List.forall_mem_singleton.mpr hboth.2⟩
      case isFalse hdotted => exact List.forall_mem_singleton.mpr (settled_lowerSimple hdotted)

/-- Settled letters are left alone. -/
theorem lowerFrom_of_settled (before : List Char) {cs : List Char} (h : ∀ c ∈ cs, Settled c) :
    lowerFrom before cs = cs := by
  induction cs generalizing before with
  | nil => rfl
  | cons c rest ih =>
    obtain ⟨hc, hrest⟩ := List.forall_mem_cons.mp h
    have hsigma : c ≠ 'Σ' := by
      rintro rfl
      exact absurd hc (by decide +kernel)
    have hdotted : c ≠ 'İ' := by
      rintro rfl
      exact absurd hc (by decide +kernel)
    rw [lowerFrom, if_neg hsigma, if_neg hdotted,
      lowerSimple_of_settled hc, ih _ hrest, List.singleton_append]

/-- **Lower-casing a text that is in lower case changes nothing.** -/
theorem lower_lower (s : String) : lower (lower s) = lower s := by
  have h := settled_lowerFrom [] s.toList
  unfold lower
  rw [String.toList_ofList, lowerFrom_of_settled [] h]

/-! ## Signs -/

/-- No letter of the row becomes the character. -/
def LowerRow.spares (row : LowerRow) (c : Char) : Bool :=
  c.toNat.blt (row.first + row.shift).toNat || (row.last + row.shift).toNat.blt c.toNat

/-- A character that lower-casing neither changes nor makes of another one. -/
def Fixed (c : Char) : Prop :=
  Settled c ∧ c ∉ ['\x00', 'ς', 'σ', 'i', '\u0307'] ∧ ∀ row ∈ lowerRows, row.spares c = true

instance (c : Char) : Decidable (Fixed c) := inferInstanceAs (Decidable (_ ∧ _ ∧ _))

/-- A letter of a row does not become a character that the row spares. -/
theorem LowerRow.ofNat_ne_of_spares {row : LowerRow} {n : Nat} {c : Char}
    (h : row.spares c = true) (hc : c ≠ '\x00') (hn : row.holds n = true) :
    Char.ofNat (n + row.shift).toNat ≠ c := by
  obtain ⟨hfirst, hlast, -⟩ := holds_iff.mp hn
  simp only [spares, Bool.or_eq_true, Nat.blt_eq] at h
  intro heq
  by_cases hvalid : (n + row.shift).toNat.isValidChar
  · have htoNat : c.toNat = (n + row.shift).toNat := by
      rw [← heq, show Char.ofNat (n + row.shift).toNat = Char.ofNatAux _ hvalid from dif_pos hvalid]
      rfl
    omega
  · exact hc (heq.symm.trans (dif_neg hvalid))

theorem lowerSimple_eq_iff {c d : Char} (h : Fixed c) : lowerSimple d = c ↔ d = c := by
  obtain ⟨hsettled, hlist, hrows⟩ := h
  constructor
  · intro heq
    unfold lowerSimple at heq
    cases hfind : lowerRows.find? fun row => row.holds d.toNat with
    | some row =>
      rw [hfind] at heq
      have hspares := hrows row (List.mem_of_find?_eq_some hfind)
      have hzero : c ≠ '\x00' := fun hc => hlist (hc ▸ List.mem_cons_self)
      have hholds := List.find?_some hfind
      exact absurd heq (LowerRow.ofNat_ne_of_spares hspares hzero hholds)
    | none =>
      rw [hfind] at heq
      exact heq
  · rintro rfl
    exact lowerSimple_of_settled hsettled

theorem mem_lowerFrom_iff {c : Char} (h : Fixed c) {before cs : List Char} :
    c ∈ lowerFrom before cs ↔ c ∈ cs := by
  have hlist := h.2.1
  simp only [List.mem_cons, List.not_mem_nil, or_false, not_or] at hlist
  obtain ⟨-, hfinal, hsigma, hi, habove⟩ := hlist
  -- The two capitals that are no row's letters are not settled, and the character is.
  have hne : ∀ d : Char, ¬ Settled d → c ≠ d := fun d hd hcd => hd (hcd ▸ h.1)
  induction cs generalizing before with
  | nil => exact Iff.rfl
  | cons d rest ih =>
    rw [lowerFrom, List.mem_append, List.mem_cons]
    refine or_congr ?_ ih
    split
    case isTrue hd =>
      refine iff_of_false ?_ (hd ▸ hne _ (by decide +kernel))
      split
      · exact fun hc => hfinal (List.mem_singleton.mp hc)
      · exact fun hc => hsigma (List.mem_singleton.mp hc)
    case isFalse =>
      split
      case isTrue hd =>
        refine iff_of_false ?_ (hd ▸ hne _ (by decide +kernel))
        simp only [List.mem_cons, List.not_mem_nil, or_false, not_or]
        exact ⟨hi, habove⟩
      case isFalse =>
        rw [List.mem_singleton, eq_comm, lowerSimple_eq_iff h, eq_comm]

/-- **A sign stands in the lower-case form of a text exactly if it stands in the text.** -/
theorem mem_lower_iff {c : Char} (h : Fixed c) {s : String} :
    c ∈ (lower s).toList ↔ c ∈ s.toList := by
  unfold lower
  rw [String.toList_ofList, mem_lowerFrom_iff h]

end Handover.Text
