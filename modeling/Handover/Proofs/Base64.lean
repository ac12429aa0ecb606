/-
  The two directions of Base64 undo each other.

  `Base64.decode` looks at a text in several passes, since it has to name the first place where the
  text is wrong.  What it accepts is nevertheless simple: the texts that `Base64.encode` writes.

  1. **Symbols** — the alphabet and the numbers below 64 are in bijection (`value?_eq_some_iff`),
     and so are runs of symbols and lists of such numbers (`symbolsAt_eq_ok_iff`).
  2. **Groups** — four numbers below 64 are three bytes (`encode_sextets`).  The last group may
     lack one or two of them; `lastGroup_eq_ok_iff` strips the passes of the last group down to its
     symbols and its fill, and `encode_of_closing` and `exists_closing` compare these with bytes.
  3. **Texts** — `groupsFrom_eq_ok_iff` by induction on the groups, and from it
     `decode_eq_ok_iff`: a text decodes to some bytes exactly when it is their padded form.
-/
import Handover.Base64

namespace Handover

/-! ## Steps that may fail -/

/-- Two steps succeed when the first does, and then the second. -/
theorem bind_eq_ok_iff {ε α β : Type} {x : Except ε α} {f : α → Except ε β} {b : β} :
    (x >>= f) = .ok b ↔ ∃ a, x = .ok a ∧ f a = .ok b := by
  cases x with
  | error e =>
    constructor
    · intro h
      cases h
    · rintro ⟨a, h, -⟩
      cases h
  | ok a =>
    constructor
    · intro h
      exact ⟨a, rfl, h⟩
    · rintro ⟨a', h, hf⟩
      cases h
      exact hf

/-- A check is passed, or nothing comes after it. -/
theorem unless_throw_eq_ok_iff {ε α : Type} {c : Prop} [Decidable c] {e : ε}
    {rest : Unit → Except ε α} {b : α} :
    (if c then (throw e >>= rest) else rest ()) = .ok b ↔ ¬ c ∧ rest () = .ok b := by
  by_cases hc : c
  · rw [if_pos hc]
    constructor
    · intro h
      cases h
    · rintro ⟨h, -⟩
      exact absurd hc h
  · rw [if_neg hc]
    exact ⟨fun h => ⟨hc, h⟩, fun h => h.2⟩

namespace Base64

/-! ## Symbols -/

theorem value?_symbol {n : Nat} (h : n < 64) : value? (symbol n) = some n := by
  have hall : ∀ k < 64, value? (symbol k) = some k := by decide
  exact hall n h

theorem symbol_of_value? {b : UInt8} {n : Nat} (h : value? b = some n) :
    n < 64 ∧ b = symbol n := by
  have hall : ∀ k < 256, ∀ m ∈ value? (UInt8.ofNat k), m < 64 ∧ UInt8.ofNat k = symbol m := by
    decide +kernel
  have hb := hall b.toNat b.toNat_lt
  rw [UInt8.ofNat_toNat] at hb
  exact hb n h

/-- A byte is a symbol exactly of its own number. -/
theorem value?_eq_some_iff {b : UInt8} {n : Nat} : value? b = some n ↔ n < 64 ∧ b = symbol n := by
  constructor
  · exact symbol_of_value?
  · rintro ⟨hn, rfl⟩
    exact value?_symbol hn

/-- The sign that fills a group is no symbol. -/
theorem symbol_ne_pad {n : Nat} (h : n < 64) : symbol n ≠ pad := by
  have hall : ∀ k < 64, symbol k ≠ pad := by decide
  exact hall n h

theorem symbolAt_eq_ok_iff {b : UInt8} {offset n : Nat} :
    symbolAt b offset = .ok n ↔ n < 64 ∧ b = symbol n := by
  rw [← value?_eq_some_iff]
  unfold symbolAt
  cases value? b with
  | none => simp
  | some m => simp

/-- A run of symbols stands for their numbers. -/
theorem symbolsAt_eq_ok_iff {offset : Nat} {text : Bytes} {ns : List Nat} :
    symbolsAt offset text = .ok ns ↔ (∀ n ∈ ns, n < 64) ∧ text = ns.map symbol := by
  induction text generalizing offset ns with
  | nil =>
    constructor
    · intro h
      cases h
      exact ⟨fun n hn => absurd hn List.not_mem_nil, rfl⟩
    · rintro ⟨-, h⟩
      rw [List.map_eq_nil_iff.mp h.symm]
      rfl
  | cons b rest ih =>
    unfold symbolsAt
    rw [bind_eq_ok_iff]
    constructor
    · rintro ⟨n, hat, h⟩
      obtain ⟨ns', hats, h⟩ := bind_eq_ok_iff.mp h
      cases h
      obtain ⟨hn, rfl⟩ := symbolAt_eq_ok_iff.mp hat
      obtain ⟨hlt, rfl⟩ := ih.mp hats
      exact ⟨List.forall_mem_cons.mpr ⟨hn, hlt⟩, rfl⟩
    · rintro ⟨hlt, htext⟩
      cases ns with
      | nil => cases htext
      | cons n ns' =>
        obtain ⟨hn, hlt⟩ := List.forall_mem_cons.mp hlt
        rw [List.map_cons, List.cons.injEq] at htext
        exact ⟨n, symbolAt_eq_ok_iff.mpr ⟨hn, htext.1⟩,
          bind_eq_ok_iff.mpr ⟨ns', ih.mpr ⟨hlt, htext.2⟩, rfl⟩⟩

/-! ## Groups -/

theorem toNat_ofNat_of_lt {n : Nat} (h : n < 256) : (UInt8.ofNat n).toNat = n := by
  rw [UInt8.toNat_ofNat']
  exact Nat.mod_eq_of_lt h

/-- Four numbers below 64 are three bytes. -/
theorem encode_sextets {p q r s : Nat} (hp : p < 64) (hq : q < 64) (hr : r < 64) (hs : s < 64)
    (rest : Bytes) :
    encode (UInt8.ofNat (p * 4 + q / 16) :: UInt8.ofNat (q % 16 * 16 + r / 4)
        :: UInt8.ofNat (r % 4 * 64 + s) :: rest)
      = symbol p :: symbol q :: symbol r :: symbol s :: encode rest := by
  have h₁ : (p * 4 + q / 16) / 4 = p := by omega
  have h₂ : (p * 4 + q / 16) % 4 * 16 + (q % 16 * 16 + r / 4) / 16 = q := by omega
  have h₃ : (q % 16 * 16 + r / 4) % 16 * 4 + (r % 4 * 64 + s) / 64 = r := by omega
  have h₄ : (r % 4 * 64 + s) % 64 = s := by omega
  rw [encode, toNat_ofNat_of_lt (by omega), toNat_ofNat_of_lt (by omega),
    toNat_ofNat_of_lt (by omega), h₁, h₂, h₃, h₄]

/-- Two bytes are three numbers, the last of them with two bits to spare. -/
theorem encode_three_sextets {p q r : Nat} (hp : p < 64) (hq : q < 64) (hr : r < 64)
    (hspare : r % 4 = 0) :
    encode [UInt8.ofNat (p * 4 + q / 16), UInt8.ofNat (q % 16 * 16 + r / 4)]
      = [symbol p, symbol q, symbol r, pad] := by
  have h₁ : (p * 4 + q / 16) / 4 = p := by omega
  have h₂ : (p * 4 + q / 16) % 4 * 16 + (q % 16 * 16 + r / 4) / 16 = q := by omega
  have h₃ : (q % 16 * 16 + r / 4) % 16 * 4 = r := by omega
  rw [encode, toNat_ofNat_of_lt (by omega), toNat_ofNat_of_lt (by omega), h₁, h₂, h₃]

/-- One byte is two numbers, the second of them with four bits to spare. -/
theorem encode_two_sextets {p q : Nat} (hp : p < 64) (hq : q < 64) (hspare : q % 16 = 0) :
    encode [UInt8.ofNat (p * 4 + q / 16)] = [symbol p, symbol q, pad, pad] := by
  have h₁ : (p * 4 + q / 16) / 4 = p := by omega
  have h₂ : (p * 4 + q / 16) % 4 * 16 = q := by omega
  rw [encode, toNat_ofNat_of_lt (by omega), h₁, h₂]

theorem ofNat_of_eq {n : Nat} {b : UInt8} (h : n = b.toNat) : UInt8.ofNat n = b := by
  rw [h, UInt8.ofNat_toNat]

/-- Three bytes are four numbers below 64. -/
theorem exists_sextets (a b c : UInt8) :
    ∃ p q r s, (∀ n ∈ [p, q, r, s], n < 64) ∧ UInt8.ofNat (p * 4 + q / 16) = a ∧
      UInt8.ofNat (q % 16 * 16 + r / 4) = b ∧ UInt8.ofNat (r % 4 * 64 + s) = c := by
  have ha := a.toNat_lt
  have hb := b.toNat_lt
  have hc := c.toNat_lt
  refine ⟨a.toNat / 4, a.toNat % 4 * 16 + b.toNat / 16, b.toNat % 16 * 4 + c.toNat / 64,
    c.toNat % 64, ?_, ofNat_of_eq (by omega), ofNat_of_eq (by omega), ofNat_of_eq (by omega)⟩
  intro n hn
  simp only [List.mem_cons, List.not_mem_nil, or_false] at hn
  omega

/-- Three bytes are a group of the padded form, and so is what is left of them at the end. -/
theorem length_encode (bytes : Bytes) : (encode bytes).length = 4 * ((bytes.length + 2) / 3) := by
  fun_induction encode bytes with
  | case1 => rfl
  | case2 a => simp
  | case3 a b => simp
  | case4 a b c rest ih =>
    simp only [List.length_cons]
    omega

theorem encode_eq_nil_iff {bytes : Bytes} : encode bytes = [] ↔ bytes = [] := by
  fun_cases encode bytes with
  | case1 => simp
  | case2 a => simp
  | case3 a b => simp
  | case4 a b c rest => simp

/-- Symbols are looked past up to the fill. -/
theorem takeWhile_symbols {ns : List Nat} (hns : ∀ n ∈ ns, n < 64) (k : Nat) :
    (ns.map symbol ++ List.replicate k pad).takeWhile (· ≠ pad) = ns.map symbol ∧
      (ns.map symbol ++ List.replicate k pad).dropWhile (· ≠ pad) = List.replicate k pad := by
  have hsymbols : ∀ b ∈ ns.map symbol, decide (b ≠ pad) = true := by
    intro b hb
    obtain ⟨n, hn, rfl⟩ := List.mem_map.mp hb
    exact decide_eq_true (symbol_ne_pad (hns n hn))
  rw [List.takeWhile_append_of_pos hsymbols, List.dropWhile_append_of_pos hsymbols]
  cases k with
  | zero => exact ⟨List.append_nil _, rfl⟩
  | succ k =>
    exact ⟨List.append_nil _, rfl⟩

/-- The last group: at least two symbols, filled to a multiple of four. -/
theorem lastGroup_eq_ok_iff {offset : Nat} {group bytes : Bytes} :
    lastGroup offset group = .ok bytes ↔
      ∃ ns k, (∀ n ∈ ns, n < 64) ∧ group = ns.map symbol ++ List.replicate k pad ∧
        2 ≤ ns.length ∧ (ns.length + k) % 4 = 0 ∧
        closing ((ns.map symbol).getLastD pad) offset ns = .ok bytes := by
  unfold lastGroup
  simp only [bind_eq_ok_iff, unless_throw_eq_ok_iff]
  constructor
  · rintro ⟨ns, hats, hfill, hshort, hfull, hclosing⟩
    obtain ⟨hns, hsymbols⟩ := symbolsAt_eq_ok_iff.mp hats
    have hpads : group.dropWhile (· ≠ pad)
        = List.replicate (group.dropWhile (· ≠ pad)).length pad := by
      refine List.eq_replicate_iff.mpr ⟨rfl, fun b hb => Decidable.byContradiction fun hne => ?_⟩
      exact hfill ⟨List.ne_nil_of_mem hb,
        Or.inr (List.any_eq_true.mpr ⟨b, hb, decide_eq_true hne⟩)⟩
    have hlength : (group.takeWhile (· ≠ pad)).length = ns.length := by
      rw [hsymbols, List.length_map]
    rw [hlength] at hshort hfull
    rw [hsymbols] at hclosing
    refine ⟨ns, (group.dropWhile (· ≠ pad)).length, hns, ?_, by omega, by omega, hclosing⟩
    rw [← hpads, ← hsymbols, List.takeWhile_append_dropWhile]
  · rintro ⟨ns, k, hns, rfl, htwo, hfull, hclosing⟩
    obtain ⟨htake, hdrop⟩ := takeWhile_symbols hns k
    rw [htake, hdrop]
    refine ⟨ns, symbolsAt_eq_ok_iff.mpr ⟨hns, rfl⟩, ?_, ?_, ?_, hclosing⟩
    · rintro ⟨-, hshort | hany⟩
      · rw [List.length_map] at hshort
        omega
      · obtain ⟨b, hb, hne⟩ := List.any_eq_true.mp hany
        exact of_decide_eq_true hne (List.eq_of_mem_replicate hb)
    · rw [List.length_map]
      omega
    · rw [List.length_map, List.length_replicate]
      omega

/-- What the symbols of the last group close to has them, filled up, for its padded form. -/
theorem encode_of_closing {last : UInt8} {offset : Nat} {ns : List Nat} {bytes : Bytes}
    (hns : ∀ n ∈ ns, n < 64) (htwo : 2 ≤ ns.length) (hfour : ns.length ≤ 4)
    (h : closing last offset ns = .ok bytes) :
    ns.map symbol ++ List.replicate (4 - ns.length) pad = encode bytes ∧ bytes ≠ [] := by
  match ns, htwo, hfour with
  | [p, q], _, _ =>
    simp only [closing] at h
    split at h
    · rename_i hspare
      cases h
      rw [encode_two_sextets (hns p (by simp)) (hns q (by simp)) hspare]
      exact ⟨rfl, List.cons_ne_nil _ _⟩
    · cases h
  | [p, q, r], _, _ =>
    simp only [closing] at h
    split at h
    · rename_i hspare
      cases h
      rw [encode_three_sextets (hns p (by simp)) (hns q (by simp)) (hns r (by simp)) hspare]
      exact ⟨rfl, List.cons_ne_nil _ _⟩
    · cases h
  | [p, q, r, s], _, _ =>
    cases h
    rw [encode_sextets (hns p (by simp)) (hns q (by simp)) (hns r (by simp)) (hns s (by simp))]
    exact ⟨rfl, List.cons_ne_nil _ _⟩
  | p :: q :: r :: s :: t :: rest, _, hfive =>
    simp only [List.length_cons] at hfive
    omega

/-- One, two or three bytes are what the symbols of their padded form close to. -/
theorem exists_closing {bytes : Bytes} (hnil : bytes ≠ []) (hthree : bytes.length ≤ 3) :
    ∃ ns k, (∀ n ∈ ns, n < 64) ∧ encode bytes = ns.map symbol ++ List.replicate k pad ∧
      2 ≤ ns.length ∧ ns.length + k = 4 ∧ ∀ last offset, closing last offset ns = .ok bytes := by
  match bytes, hnil, hthree with
  | [a], _, _ =>
    have ha := a.toNat_lt
    have hsum : a.toNat / 4 * 4 + a.toNat % 4 * 16 / 16 = a.toNat := by omega
    refine ⟨[a.toNat / 4, a.toNat % 4 * 16], 2, ?_, rfl, by simp, by simp, fun last offset => ?_⟩
    · intro n hn
      simp only [List.mem_cons, List.not_mem_nil, or_false] at hn
      omega
    · rw [closing, if_pos (by omega), ofNat_of_eq hsum]
  | [a, b], _, _ =>
    have ha := a.toNat_lt
    have hb := b.toNat_lt
    have hsum : a.toNat / 4 * 4 + (a.toNat % 4 * 16 + b.toNat / 16) / 16 = a.toNat := by omega
    have hsum' : (a.toNat % 4 * 16 + b.toNat / 16) % 16 * 16 + b.toNat % 16 * 4 / 4
        = b.toNat := by omega
    refine ⟨[a.toNat / 4, a.toNat % 4 * 16 + b.toNat / 16, b.toNat % 16 * 4], 1, ?_, rfl,
      by simp, by simp, fun last offset => ?_⟩
    · intro n hn
      simp only [List.mem_cons, List.not_mem_nil, or_false] at hn
      omega
    · rw [closing, if_pos (by omega), ofNat_of_eq hsum, ofNat_of_eq hsum']
  | [a, b, c], _, _ =>
    obtain ⟨p, q, r, s, hns, rfl, rfl, rfl⟩ := exists_sextets a b c
    refine ⟨[p, q, r, s], 0, hns, ?_, by simp, by simp, fun last offset => rfl⟩
    rw [encode_sextets (hns p (by simp)) (hns q (by simp)) (hns r (by simp)) (hns s (by simp))]
    rfl
  | a :: b :: c :: d :: rest, _, hfour =>
    simp only [List.length_cons] at hfour
    omega

/-- A group of at most four bytes is accepted as the last one exactly when it is the padded form of
    one, two or three bytes. -/
theorem lastGroup_eq_ok_iff_encode {offset : Nat} {group bytes : Bytes}
    (hgroup : group.length ≤ 4) :
    lastGroup offset group = .ok bytes ↔ group = encode bytes ∧ bytes ≠ [] := by
  rw [lastGroup_eq_ok_iff]
  constructor
  · rintro ⟨ns, k, hns, rfl, htwo, hfull, hclosing⟩
    rw [List.length_append, List.length_map, List.length_replicate] at hgroup
    have hk : k = 4 - ns.length := by omega
    rw [hk]
    exact encode_of_closing hns htwo (by omega) hclosing
  · rintro ⟨rfl, hnil⟩
    have hthree : bytes.length ≤ 3 := by
      have hlength := length_encode bytes
      omega
    obtain ⟨ns, k, hns, hencode, htwo, hfour, hclosing⟩ := exists_closing hnil hthree
    exact ⟨ns, k, hns, hencode, htwo, by omega, hclosing _ _⟩

/-! ## Texts -/

/-- The groups from an offset on are accepted exactly if they are a padded form. -/
theorem groupsFrom_eq_ok_iff {offset : Nat} {text bytes : Bytes} :
    groupsFrom offset text = .ok bytes ↔ text = encode bytes := by
  fun_induction groupsFrom offset text generalizing bytes with
  | case1 offset =>
    constructor
    · intro h
      cases h
      rfl
    · intro h
      rw [encode_eq_nil_iff.mp h.symm]
  | case2 offset a b c d rest hend =>
    -- Four bytes and no more: they are the last group.
    rw [List.isEmpty_iff.mp hend, lastGroup_eq_ok_iff_encode (by simp)]
    constructor
    · exact fun h => h.1
    · intro h
      refine ⟨h, fun hnil => ?_⟩
      rw [hnil] at h
      cases h
  | case3 offset a b c d rest hmore ih =>
    -- A group with others behind it takes no fill, so it has four symbols and gives three bytes.
    simp only [bind_eq_ok_iff, symbolAt_eq_ok_iff, ih]
    constructor
    · rintro ⟨p, ⟨hp, rfl⟩, q, ⟨hq, rfl⟩, r, ⟨hr, rfl⟩, s, ⟨hs, rfl⟩, tail, rfl, h⟩
      cases h
      rw [encode_sextets hp hq hr hs]
    · intro h
      match bytes with
      | [] => cases h
      | [x] => cases h; exact absurd rfl hmore
      | [x, y] => cases h; exact absurd rfl hmore
      | x :: y :: z :: tail =>
        obtain ⟨p, q, r, s, hns, rfl, rfl, rfl⟩ := exists_sextets x y z
        have hp := hns p (by simp)
        have hq := hns q (by simp)
        have hr := hns r (by simp)
        have hs := hns s (by simp)
        rw [encode_sextets hp hq hr hs] at h
        cases h
        exact ⟨p, ⟨hp, rfl⟩, q, ⟨hq, rfl⟩, r, ⟨hr, rfl⟩, s, ⟨hs, rfl⟩, tail, rfl, rfl⟩
  | case4 offset group hnil hfour =>
    -- One to three bytes are no group: neither side accepts them.
    have hshort : group.length < 4 := by
      match group, hfour with
      | [], _ | [_], _ | [_, _], _ | [_, _, _], _ => simp
      | a :: b :: c :: d :: rest, hfour => exact (hfour a b c d rest rfl).elim
    have hpartial : group ≠ encode bytes := by
      intro h
      have hlength := length_encode bytes
      rw [← h] at hlength
      exact hnil (List.eq_nil_of_length_eq_zero (by omega))
    rw [lastGroup_eq_ok_iff_encode (Nat.le_of_lt hshort)]
    exact ⟨fun h => h.1, fun h => absurd h hpartial⟩

/-- **Decoding is the inverse of encoding.**  A text decodes to some bytes exactly when it is their
    padded form, so no second text decodes to them. -/
theorem decode_eq_ok_iff {text bytes : Bytes} : decode text = .ok bytes ↔ text = encode bytes := by
  have hall : groupsFrom 0 text = .ok bytes ↔ text = encode bytes := groupsFrom_eq_ok_iff
  rw [← hall]
  unfold decode
  by_cases hmod : text.length % 4 = 1
  · -- A single byte after the full groups: neither side accepts it.
    have hgroups : groupsFrom 0 text ≠ .ok bytes := by
      intro h
      have hlength := length_encode bytes
      rw [← hall.mp h] at hlength
      omega
    rw [if_pos hmod]
    cases text.getLast?.filter fun b => (value? b).isNone && b != pad with
    | none => rfl
    | some b => exact ⟨fun h => (by cases h), fun h => absurd h hgroups⟩
  · rw [if_neg hmod]

end Base64

end Handover
