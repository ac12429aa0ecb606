/-
  The texts that stand for a path.

  A directory travels as text: the bytes of the path in Base64, with blanks around them or without.
  `Base64.encode` works on groups of three bytes; here the padded form is told by bits alone, and
  a text is decoded exactly if it has this form.

  1. **Bits** — a number fills a field of bits, the highest first.  A field that is made of two
     numbers holds the bits of the one and then those of the other (`bits_of_parts`), so the eight
     bits of three bytes are the six bits of four symbols (`bits_of_three`).
  2. **The padded form** — `IsPaddedForm`: the bits of the symbols are the bits of the bytes with
     fewer than six zeros behind, and the fill completes the last four.  Every byte string has a
     padded form (`isPaddedForm_encode`, by induction on its groups) and only one
     (`IsPaddedForm.unique`: the lengths agree, so the bits do, and so the symbols).
  3. **Blanks** — a text is what is left of it after trimming, with blanks on both sides
     (`exists_blanks`).
  4. **Decoding** — `decodePath_inverts_textOf` puts these together.
-/
import Mathlib.Data.List.DropRight
import Handover.Proofs.Components
import Handover.Proofs.RoundTrip

namespace Handover

namespace Base64

/-! ## Bits -/

/-- The bits of a number in a field of the given width, the highest first. -/
def bits : Nat → Nat → List Bool
  | 0, _ => []
  | width + 1, n => bits width (n / 2) ++ [decide (n % 2 = 1)]

@[simp] theorem length_bits (width n : Nat) : (bits width n).length = width := by
  induction width generalizing n with
  | zero => rfl
  | succ width ih => rw [bits, List.length_append, ih, List.length_singleton]

theorem bits_zero (width : Nat) : bits width 0 = List.replicate width false := by
  induction width with
  | zero => rfl
  | succ width ih =>
    rw [bits, Nat.zero_div, ih, List.replicate_succ']
    rfl

/-- **A field that is made of two numbers** holds the bits of the first and then those of the
    second, which is below `m`. -/
theorem bits_of_parts (v w m : Nat) {x y n : Nat} (hm : m = Nat.pow 2 w) (hy : y < m)
    (hn : n = x * m + y) : bits (v + w) n = bits v x ++ bits w y := by
  induction w generalizing m y n with
  | zero =>
    have hone : m = 1 := hm
    have hx : n = x := by
      rw [hone] at hn hy
      omega
    rw [hx]
    exact (List.append_nil _).symm
  | succ w ih =>
    -- The last bit is that of `y`, and before it stand `x` and the half of `y`.
    obtain ⟨k, hk⟩ : ∃ k, k = Nat.pow 2 w := ⟨_, rfl⟩
    have hdouble : m = k * 2 := by
      rw [hm, hk]
      rfl
    have hhalf : n / 2 = x * k + y / 2 := by
      rw [hn, hdouble, ← Nat.mul_assoc]
      omega
    have hlast : n % 2 = y % 2 := by
      rw [hn, hdouble, ← Nat.mul_assoc]
      omega
    rw [← Nat.add_assoc, bits, hlast, ih k hk (by omega) hhalf, bits, List.append_assoc]

/-- The bits of a field tell the number. -/
theorem bits_inj {width n k : Nat} (hn : n < Nat.pow 2 width) (hk : k < Nat.pow 2 width)
    (h : bits width n = bits width k) : n = k := by
  induction width generalizing n k with
  | zero =>
    have hn : n < 1 := hn
    have hk : k < 1 := hk
    omega
  | succ width ih =>
    have hn : n < Nat.pow 2 width * 2 := hn
    have hk : k < Nat.pow 2 width * 2 := hk
    obtain ⟨hfront, hlast⟩ := List.append_inj' h rfl
    have hhalf : n / 2 = k / 2 := ih (by omega) (by omega) hfront
    have hodd : (n % 2 = 1) ↔ (k % 2 = 1) := decide_eq_decide.mp (List.singleton_inj.mp hlast)
    omega

/-- The bits of a byte string. -/
def bitsOf (bytes : Bytes) : List Bool := bytes.flatMap fun b => bits 8 b.toNat

theorem length_flatMap_bits (width : Nat) (ns : List Nat) :
    (ns.flatMap (bits width)).length = width * ns.length := by
  induction ns with
  | nil => rfl
  | cons n rest ih =>
    rw [List.flatMap_cons, List.length_append, length_bits, ih, List.length_cons, Nat.mul_succ,
      Nat.add_comm]

/-- Fields of one width tell the numbers in them. -/
theorem flatMap_bits_inj (width : Nat) {ns ms : List Nat} (hns : ∀ n ∈ ns, n < Nat.pow 2 width)
    (hms : ∀ m ∈ ms, m < Nat.pow 2 width) (hlength : ns.length = ms.length)
    (h : ns.flatMap (bits width) = ms.flatMap (bits width)) : ns = ms := by
  induction ns generalizing ms with
  | nil => exact (List.eq_nil_of_length_eq_zero hlength.symm).symm
  | cons n ns ih =>
    cases ms with
    | nil => cases hlength
    | cons m ms =>
      obtain ⟨hn, hns⟩ := List.forall_mem_cons.mp hns
      obtain ⟨hm, hms⟩ := List.forall_mem_cons.mp hms
      rw [List.flatMap_cons, List.flatMap_cons] at h
      obtain ⟨hfirst, hrest⟩ := List.append_inj h (by rw [length_bits, length_bits])
      rw [bits_inj hn hm hfirst, ih hns hms (Nat.succ.inj hlength) hrest]

/-! ## The padded form -/

/-- **The padded form of a byte string, told by its bits.**  Every six bits are a symbol; zeros
    complete the bits of the last symbol, and the sign of the fill the last four signs. -/
def IsPaddedForm (text bytes : Bytes) : Prop :=
  ∃ (ns : List Nat) (spare fill : Nat), (∀ n ∈ ns, n < 64) ∧ spare < 6 ∧ fill < 4 ∧
    ns.flatMap (bits 6) = bitsOf bytes ++ List.replicate spare false ∧
    (ns.length + fill) % 4 = 0 ∧
    text = ns.map symbol ++ List.replicate fill pad

/-- The bits of a byte are those of its upper and those of its lower part. -/
theorem bits_of_byte (v w m : Nat) (hwidth : v + w = 8) (hm : m = Nat.pow 2 w) (b : UInt8) :
    bits 8 b.toNat = bits v (b.toNat / m) ++ bits w (b.toNat % m) := by
  have hpos : 0 < m := hm ▸ Nat.two_pow_pos w
  rw [← hwidth]
  exact bits_of_parts v w m hm (Nat.mod_lt _ hpos) (Nat.div_add_mod' b.toNat m).symm

/-- The second symbol of a group has the end of the first byte and the start of the second. -/
theorem bits_of_second (a b : UInt8) : bits 6 (a.toNat % 4 * 16 + b.toNat / 16)
    = bits 2 (a.toNat % 4) ++ bits 4 (b.toNat / 16) := by
  have hb := b.toNat_lt
  exact bits_of_parts 2 4 16 rfl (by omega) rfl

/-- One byte is the bits of two symbols but for four zeros. -/
theorem bits_of_one (a : UInt8) :
    bits 6 (a.toNat / 4) ++ bits 6 (a.toNat % 4 * 16)
      = bits 8 a.toNat ++ List.replicate 4 false := by
  have hlast : bits 6 (a.toNat % 4 * 16) = bits 2 (a.toNat % 4) ++ bits 4 0 :=
    bits_of_parts 2 4 16 rfl (by decide) rfl
  rw [bits_of_byte 6 2 4 rfl rfl a, hlast, bits_zero, List.append_assoc]

/-- Two bytes are the bits of three symbols but for two zeros. -/
theorem bits_of_two (a b : UInt8) :
    bits 6 (a.toNat / 4) ++ (bits 6 (a.toNat % 4 * 16 + b.toNat / 16)
        ++ bits 6 (b.toNat % 16 * 4))
      = bits 8 a.toNat ++ bits 8 b.toNat ++ List.replicate 2 false := by
  have hlast : bits 6 (b.toNat % 16 * 4) = bits 4 (b.toNat % 16) ++ bits 2 0 :=
    bits_of_parts 4 2 4 rfl (by decide) rfl
  rw [bits_of_byte 6 2 4 rfl rfl a, bits_of_byte 4 4 16 rfl rfl b, bits_of_second, hlast, bits_zero]
  simp only [List.append_assoc]

/-- Three bytes are the bits of four symbols. -/
theorem bits_of_three (a b c : UInt8) :
    bits 6 (a.toNat / 4) ++ (bits 6 (a.toNat % 4 * 16 + b.toNat / 16)
        ++ (bits 6 (b.toNat % 16 * 4 + c.toNat / 64) ++ bits 6 (c.toNat % 64)))
      = bits 8 a.toNat ++ bits 8 b.toNat ++ bits 8 c.toNat := by
  have hc := c.toNat_lt
  have hthird : bits 6 (b.toNat % 16 * 4 + c.toNat / 64)
      = bits 4 (b.toNat % 16) ++ bits 2 (c.toNat / 64) := bits_of_parts 4 2 4 rfl (by omega) rfl
  rw [bits_of_byte 6 2 4 rfl rfl a, bits_of_byte 4 4 16 rfl rfl b, bits_of_byte 2 6 64 rfl rfl c,
    bits_of_second, hthird]
  simp only [List.append_assoc]

/-- **Every byte string has a padded form.** -/
theorem isPaddedForm_encode (bytes : Bytes) : IsPaddedForm (encode bytes) bytes := by
  induction bytes using encode.induct with
  | case1 => exact ⟨[], 0, 0, List.forall_mem_nil _, by decide, by decide, rfl, rfl, rfl⟩
  | case2 a =>
    have ha := a.toNat_lt
    refine ⟨[a.toNat / 4, a.toNat % 4 * 16], 4, 2, ?_, by decide, by decide, ?_, by simp, rfl⟩
    · simp only [List.forall_mem_cons]
      exact ⟨by omega, by omega, List.forall_mem_nil _⟩
    · simpa [bitsOf] using bits_of_one a
  | case3 a b =>
    have ha := a.toNat_lt
    have hb := b.toNat_lt
    refine ⟨[a.toNat / 4, a.toNat % 4 * 16 + b.toNat / 16, b.toNat % 16 * 4], 2, 1, ?_, by decide,
      by decide, ?_, by simp, rfl⟩
    · simp only [List.forall_mem_cons]
      exact ⟨by omega, by omega, by omega, List.forall_mem_nil _⟩
    · simpa [bitsOf] using bits_of_two a b
  | case4 a b c rest ih =>
    have ha := a.toNat_lt
    have hb := b.toNat_lt
    have hc := c.toNat_lt
    obtain ⟨ns, spare, fill, hns, hspare, hfill, hbits, hfull, htext⟩ := ih
    refine ⟨a.toNat / 4 :: (a.toNat % 4 * 16 + b.toNat / 16) :: (b.toNat % 16 * 4 + c.toNat / 64)
      :: c.toNat % 64 :: ns, spare, fill, ?_, hspare, hfill, ?_, ?_, ?_⟩
    · simp only [List.forall_mem_cons]
      exact ⟨by omega, by omega, by omega, by omega, hns⟩
    · -- The bits of the first three bytes come first on both sides.
      have hgroup := congrArg (· ++ ns.flatMap (bits 6)) (bits_of_three a b c)
      simpa [bitsOf, hbits] using hgroup
    · simp only [List.length_cons]
      omega
    · rw [encode, htext]
      rfl

/-- **A byte string has only one padded form.** -/
theorem IsPaddedForm.unique {text text' bytes : Bytes} (h : IsPaddedForm text bytes)
    (h' : IsPaddedForm text' bytes) : text = text' := by
  obtain ⟨ns, spare, fill, hns, hspare, hfill, hbits, hfull, rfl⟩ := h
  obtain ⟨ms, spare', fill', hms, hspare', hfill', hbits', hfull', rfl⟩ := h'
  have hlength := congrArg List.length hbits
  have hlength' := congrArg List.length hbits'
  rw [List.length_append, List.length_replicate, length_flatMap_bits] at hlength hlength'
  -- Fewer than six zeros: the number of symbols follows from the number of bits.
  have hsame : ns.length = ms.length := by omega
  have hzeros : spare = spare' := by omega
  have hpads : fill = fill' := by omega
  rw [← hzeros, ← hbits] at hbits'
  rw [flatMap_bits_inj 6 hns hms hsame hbits'.symm, hpads]

theorem isPaddedForm_iff {text bytes : Bytes} : IsPaddedForm text bytes ↔ text = encode bytes := by
  constructor
  · exact fun h => h.unique (isPaddedForm_encode bytes)
  · rintro rfl
    exact isPaddedForm_encode bytes

/-- The symbols are those of the standard alphabet, in its order. -/
example : (List.range 64).map symbol
    = Text.encode "ABCDEFGHIJKLMNOPQRSTUVWXYZabcdefghijklmnopqrstuvwxyz0123456789+/" := by decide

end Base64

/-! ## Blanks -/

namespace Text

/-- A text is what is left of it after trimming, with blanks on both sides. -/
theorem exists_blanks (p : Char → Bool) (cs : List Char) :
    ∃ before after, (∀ c ∈ before ++ after, p c = true) ∧
      cs = before ++ stripBoth p cs ++ after := by
  have hblank : ∀ c ∈ cs.takeWhile p ++ (cs.dropWhile p).rtakeWhile p, p c = true := by
    intro c hc
    rcases List.mem_append.mp hc with h | h
    · exact List.mem_takeWhile_imp h
    · exact List.mem_rtakeWhile_imp h
  refine ⟨cs.takeWhile p, (cs.dropWhile p).rtakeWhile p, hblank, ?_⟩
  have hend : cs.dropWhile p = stripBoth p cs ++ (cs.dropWhile p).rtakeWhile p :=
    List.rdropWhile_append_rtakeWhile.symm
  rw [List.append_assoc, ← hend, List.takeWhile_append_dropWhile]

/-- Blanks around a text with no blank in it are trimmed away. -/
theorem stripBoth_of_blanks {p : Char → Bool} {before inner after : List Char}
    (hblank : ∀ c ∈ before ++ after, p c = true) (hinner : ∀ c ∈ inner, p c = false) :
    stripBoth p (before ++ inner ++ after) = inner := by
  have hbefore : ∀ c ∈ before, p c = true := fun c hc => hblank c (List.mem_append_left _ hc)
  have hafter : ∀ c ∈ after, p c = true := fun c hc => hblank c (List.mem_append_right _ hc)
  unfold stripBoth
  rw [List.append_assoc, List.dropWhile_append_of_pos hbefore]
  cases inner with
  | nil =>
    rw [List.nil_append, List.dropWhile_eq_nil_iff.mpr hafter]
    rfl
  | cons c rest =>
    have hfirst : ¬ p c = true := Bool.not_eq_true _ ▸ hinner c List.mem_cons_self
    have hrest : ∀ d ∈ (c :: rest).reverse, p d = false := fun d hd =>
      hinner d (List.mem_reverse.mp hd)
    rw [List.cons_append, List.dropWhile_cons_of_neg hfirst, ← List.cons_append,
      List.reverse_append,
      List.dropWhile_append_of_pos fun d hd => hafter d (List.mem_reverse.mp hd),
      dropWhile_of_none hrest, List.reverse_reverse]

end Text

/-! ## Decoding -/

namespace Host

open Description (textOf encode_asciiText)

variable {field : Field} {text : String} {path : Path}

theorem encode_textOf (path : Path) : Text.encode (textOf path) = Base64.encode path :=
  encode_asciiText (Base64.isSign_of_mem_encode path)

/-- A text stands for a path if it is the text of the path after trimming. -/
theorem standsFor_iff_trim_eq : StandsFor text path ↔ Text.trim text = textOf path := by
  unfold StandsFor
  rw [← encode_textOf]
  exact Path.ofString_inj

/-- What trimming leaves has blanks around it in the text, and nothing else. -/
theorem trim_eq_textOf_iff : Text.trim text = textOf path ↔
    ∃ before after, (∀ c ∈ before ++ after, Text.isBlank c = true) ∧
      text.toList = before ++ (textOf path).toList ++ after := by
  constructor
  · intro h
    obtain ⟨before, after, hblank, htext⟩ := Text.exists_blanks Text.isBlank text.toList
    refine ⟨before, after, hblank, ?_⟩
    rw [← h, Text.trim, String.toList_ofList]
    exact htext
  · rintro ⟨before, after, hblank, htext⟩
    have hinner : ∀ c ∈ (textOf path).toList, Text.isBlank c = false :=
      Description.isBlank_of_mem_asciiText (Base64.isSign_of_mem_encode path)
    rw [Text.trim, htext, Text.stripBoth_of_blanks hblank hinner, String.ofList_toList]

/-- A text that is not decoded breaks the rule for the member that it was given for. -/
theorem decodePath_eq_error_iff :
    (∃ fault, decodePath field text = .error (.invalidField field (.encoding fault)))
      ↔ ∀ path, ¬ StandsFor text path := by
  constructor
  · rintro ⟨fault, h⟩ path hpath
    rw [decodePath_eq_ok_iff.mpr hpath] at h
    cases h
  · intro h
    cases hdecode : decodePath field text with
    | ok path => exact absurd (decodePath_eq_ok_iff.mp hdecode) (h path)
    | error e =>
      unfold decodePath at hdecode
      split at hdecode
      · cases hdecode
      · cases hdecode
        exact ⟨_, rfl⟩

/-- **Decoding is the exact inverse of the padded form.**  For every member and every text

  1. the text is decoded to a path exactly if, trimmed, it is the text of the path;
  2. that is, if it is the text of the path with blanks around it and nothing else;
  3. that is, if its bits are those of the path's bytes, six to a symbol, with the spare bits zero
     and the last four signs filled;
  4. in every other case the member is refused, whatever the text is;
  5. the text of a path is decoded to this path, whatever its bytes are;
  6. two texts that differ after trimming are not decoded to one path. -/
theorem decodePath_inverts_textOf (field : Field) (text : String) :
    (∀ path, decodePath field text = .ok path ↔ Text.trim text = textOf path) ∧
    (∀ path, decodePath field text = .ok path ↔
      ∃ before after, (∀ c ∈ before ++ after, Text.isBlank c = true) ∧
        text.toList = before ++ (textOf path).toList ++ after) ∧
    (∀ path, decodePath field text = .ok path ↔
      Base64.IsPaddedForm (Text.encode (Text.trim text)) path) ∧
    ((∃ fault, decodePath field text = .error (.invalidField field (.encoding fault))) ↔
      ∀ path, Text.trim text ≠ textOf path) ∧
    (∀ path, decodePath field (textOf path) = .ok path) ∧
    (∀ field' text', Text.trim text ≠ Text.trim text' →
      ∀ path, ¬ (decodePath field text = .ok path ∧ decodePath field' text' = .ok path)) := by
  have htrim : ∀ field text path,
      decodePath field text = .ok path ↔ Text.trim text = textOf path := fun _ _ _ =>
    decodePath_eq_ok_iff.trans standsFor_iff_trim_eq
  refine ⟨htrim field text, fun path => ?_, fun path => ?_, ?_, fun path => ?_, ?_⟩
  · exact (htrim field text path).trans trim_eq_textOf_iff
  · exact decodePath_eq_ok_iff.trans Base64.isPaddedForm_iff.symm
  · simp only [decodePath_eq_error_iff, standsFor_iff_trim_eq, ne_eq]
  · exact decodePath_eq_ok_iff.mpr (Description.standsFor_textOf path)
  · rintro field' text' hne path ⟨h, h'⟩
    exact hne (((htrim field text path).mp h).trans ((htrim field' text' path).mp h').symm)

/-- With a bit set that no byte takes up, a text does not stand for the same path. -/
theorem spare_bits_told_apart : Text.trim "Zm8=\n" ≠ Text.trim "Zm9=" ∧
    ∀ path, ¬ (decodePath .scripts "Zm8=\n" = .ok path ∧
      decodePath .packageDir "Zm9=" = .ok path) := by
  have hne : Text.trim "Zm8=\n" ≠ Text.trim "Zm9=" := by decide
  exact ⟨hne, (decodePath_inverts_textOf .scripts "Zm8=\n").2.2.2.2.2 .packageDir "Zm9=" hne⟩

end Host

end Handover
