/-
  Reading what was printed.

  The printer writes every character outside printable ASCII as one or two escapes; the reader goes
  through the text once and undoes them.

  1. **Characters** — `readText` takes the printed form of one character off its text and gives the
     character back (`readText_printChar`).  The cases are those of the printer: an escape of one
     letter, the character itself, one escape of four digits, or a pair of them.
  2. **Values** — `Plain n v` says that a value has neither numbers nor arrays, that its objects are
     nested at most `n` deep, and that no object repeats a name.  `Plain.readsBack` reads such a
     value back, whatever text follows; the recursion is on the nesting, and along the members of
     an object.
  3. **Documents** — `read_toDocument`: the whole text reads back as the value.
-/
import Mathlib.Tactic.SplitIfs
import Handover.Json.Printer
import Handover.Json.Reader
import Handover.Proofs.Members

namespace Handover.Json

/-! ## Escapes -/

theorem isLowSurrogate_iff {n : Nat} : isLowSurrogate n = true ↔ 0xDC00 ≤ n ∧ n ≤ 0xDFFF := by
  unfold isLowSurrogate
  rw [Bool.and_eq_true, decide_eq_true_iff, decide_eq_true_iff]

theorem isHighSurrogate_iff {n : Nat} : isHighSurrogate n = true ↔ 0xD800 ≤ n ∧ n ≤ 0xDBFF := by
  unfold isHighSurrogate
  rw [Bool.and_eq_true, decide_eq_true_iff, decide_eq_true_iff]

theorem hexValue_hexDigit {n : Nat} (h : n < 16) : hexValue (hexDigit n) = some n := by
  have hall : ∀ k < 16, hexValue (hexDigit k) = some k := by decide
  exact hall n h

/-- The four digits of a code unit give the code unit back. -/
theorem hexNumber_unit {n : Nat} (h : n < 0x10000) :
    hexNumber (hexDigit (n / 0x1000 % 16)) (hexDigit (n / 0x100 % 16)) (hexDigit (n / 0x10 % 16))
      (hexDigit (n % 16)) = some n := by
  have hsum : n / 0x1000 % 16 * 0x1000 + n / 0x100 % 16 * 0x100 + n / 0x10 % 16 * 0x10 + n % 16
      = n := by omega
  unfold hexNumber
  rw [hexValue_hexDigit (Nat.mod_lt _ (by decide)), hexValue_hexDigit (Nat.mod_lt _ (by decide)),
    hexValue_hexDigit (Nat.mod_lt _ (by decide)), hexValue_hexDigit (Nat.mod_lt _ (by decide))]
  exact congrArg some hsum

/-- A code unit that is no half of a pair stands for its character. -/
theorem readText_unitEscape {n : Nat} (h : n < 0x10000) (hlow : isLowSurrogate n = false)
    (hhigh : isHighSurrogate n = false) (rest : List Char) :
    readText (unitEscape n ++ rest) = Read.push (Char.ofNat n) (readText rest) := by
  show readText ('\\' :: 'u' :: hexDigit (n / 0x1000 % 16) :: hexDigit (n / 0x100 % 16)
    :: hexDigit (n / 0x10 % 16) :: hexDigit (n % 16) :: rest) = _
  rw [readText, hexNumber_unit h]
  simp only [hlow, hhigh, Bool.false_eq_true, if_false]

/-- The two halves of a pair stand for one character. -/
theorem readText_pair {high low : Nat} (hhigh : isHighSurrogate high = true)
    (hlow : isLowSurrogate low = true) (rest : List Char) :
    readText (unitEscape high ++ unitEscape low ++ rest)
      = Read.push (Char.ofNat (joinSurrogates high low)) (readText rest) := by
  have hhigh' := isHighSurrogate_iff.mp hhigh
  have hlow' := isLowSurrogate_iff.mp hlow
  have hnotlow : isLowSurrogate high = false := by
    rw [Bool.eq_false_iff, ne_eq, isLowSurrogate_iff]
    omega
  show readText ('\\' :: 'u' :: hexDigit (high / 0x1000 % 16) :: hexDigit (high / 0x100 % 16)
    :: hexDigit (high / 0x10 % 16) :: hexDigit (high % 16)
    :: '\\' :: 'u' :: hexDigit (low / 0x1000 % 16) :: hexDigit (low / 0x100 % 16)
    :: hexDigit (low / 0x10 % 16) :: hexDigit (low % 16) :: rest) = _
  rw [readText, hexNumber_unit (by omega)]
  have hsecond : low < 0x10000 := by omega
  simp only [hnotlow, hhigh, hexNumber_unit hsecond, hlow, Bool.false_eq_true, if_false, if_true]

/-! ## Characters -/

/-- An escape of one letter. -/
theorem readText_escape {e c : Char} (hu : e ≠ 'u') (h : simpleEscape e = some c)
    (rest : List Char) : readText ('\\' :: e :: rest) = Read.push c (readText rest) := by
  rw [readText.eq_def]
  simp [hu, h]

/-- A character that stands for itself. -/
theorem readText_self {c : Char} (hquote : c ≠ '"') (hslash : c ≠ '\\') (hcontrol : 0x20 ≤ c.toNat)
    (rest : List Char) : readText (c :: rest) = Read.push c (readText rest) := by
  rw [readText.eq_def]
  simp [hslash, Nat.not_lt.mpr hcontrol]

/-- The escapes of a character stand for it. -/
theorem readText_codePointEscape (c : Char) (rest : List Char) :
    readText (codePointEscape c.toNat ++ rest) = Read.push c (readText rest) := by
  have hvalid : c.toNat < 0xD800 ∨ (0xDFFF < c.toNat ∧ c.toNat < 0x110000) := c.valid
  unfold codePointEscape
  by_cases hshort : c.toNat < 0x10000
  · -- One escape: a character is never half of a pair.
    have hlow : isLowSurrogate c.toNat = false := by
      rw [Bool.eq_false_iff, ne_eq, isLowSurrogate_iff]
      omega
    have hhigh : isHighSurrogate c.toNat = false := by
      rw [Bool.eq_false_iff, ne_eq, isHighSurrogate_iff]
      omega
    rw [if_pos hshort, readText_unitEscape hshort hlow hhigh, Char.ofNat_toNat]
  · have hhigh : isHighSurrogate (0xD800 + (c.toNat - 0x10000) / 0x400) = true := by
      rw [isHighSurrogate_iff]
      omega
    have hlow : isLowSurrogate (0xDC00 + (c.toNat - 0x10000) % 0x400) = true := by
      rw [isLowSurrogate_iff]
      omega
    have hjoin : joinSurrogates (0xD800 + (c.toNat - 0x10000) / 0x400)
        (0xDC00 + (c.toNat - 0x10000) % 0x400) = c.toNat := by
      unfold joinSurrogates
      omega
    rw [if_neg hshort, readText_pair hhigh hlow, hjoin, Char.ofNat_toNat]

/-- **The printed form of a character is read as the character.** -/
theorem readText_printChar (c : Char) (rest : List Char) :
    readText (printChar c ++ rest) = Read.push c (readText rest) := by
  unfold printChar
  split_ifs with hquote hslash hn hr ht hb hf hplain
  · rw [hquote]; exact readText_escape (by decide) rfl rest
  · rw [hslash]; exact readText_escape (by decide) rfl rest
  · rw [hn]; exact readText_escape (by decide) rfl rest
  · rw [hr]; exact readText_escape (by decide) rfl rest
  · rw [ht]; exact readText_escape (by decide) rfl rest
  · rw [hb]; exact readText_escape (by decide) rfl rest
  · rw [hf]; exact readText_escape (by decide) rfl rest
  · exact readText_self hquote hslash hplain.1 rest
  · exact readText_codePointEscape c rest

/-- A printed text is read up to the quote that ends it. -/
theorem readText_printed (cs rest : List Char) :
    readText (cs.flatMap printChar ++ '"' :: rest) = .ok (cs, rest) := by
  induction cs with
  | nil => rw [List.flatMap_nil, List.nil_append, readText]
  | cons c cs ih =>
    rw [List.flatMap_cons, List.append_assoc, readText_printChar, ih]
    rfl

/-! ## Values -/

/-- A value without numbers and arrays, whose objects are nested at most so deep and repeat no
    name. -/
inductive Plain : Nat → Json → Prop where
  | null (n : Nat) : Plain n .null
  | bool (n : Nat) (b : Bool) : Plain n (.bool b)
  | string (n : Nat) (s : String) : Plain n (.string s)
  | object {n : Nat} {members : List (String × Json)} (hnames : (members.map Prod.fst).Nodup)
      (hmembers : ∀ m ∈ members, Plain n m.2) : Plain (n + 1) (.object members)

/-- One member. -/
def printMember (m : String × Json) : List Char := printString m.1 ++ [':', ' '] ++ print m.2

/-- The members after the first, each with the separator before it. -/
def printLater (members : List (String × Json)) : List Char :=
  members.flatMap fun m => [',', ' '] ++ printMember m

theorem printMembers_cons (m : String × Json) (rest : List (String × Json)) :
    printMembers (m :: rest) = printMember m ++ printLater rest := by
  induction rest generalizing m with
  | nil =>
    rw [printMembers, printLater, List.flatMap_nil, List.append_nil]
    rfl
  | cons m' rest ih =>
    have hlater : printLater (m' :: rest) = [',', ' '] ++ printMember m' ++ printLater rest := rfl
    rw [printMembers, ih m', hlater]
    · simp only [printMember, List.append_assoc]
    · exact fun h => List.cons_ne_nil _ _ h

/-- A blank before a value is passed over. -/
theorem readValue_blank (fuel depth : Nat) (s : List Char) :
    readValue (fuel + 1) depth (' ' :: s) = readValue (fuel + 1) depth s := by
  rw [readValue, readValue]
  rfl

/-- The value is read back, whatever comes after it, if there is fuel for twice its length. -/
def ReadsBack (depth : Nat) (v : Json) : Prop :=
  ∀ fuel rest, 2 * (print v).length ≤ fuel → readValue fuel depth (print v ++ rest) = .ok (v, rest)

/-- A member starts with the quote of its name. -/
theorem printMember_append (m : String × Json) (tail : List Char) :
    printMember m ++ tail
      = '"' :: (m.1.toList.flatMap printChar ++ '"' :: ':' :: ' ' :: (print m.2 ++ tail)) := by
  simp only [printMember, printString, List.append_assoc, List.cons_append, List.nil_append]

/-- One member is read back, and then those after it. -/
theorem readMember_cons {depth fuel : Nat} {m : String × Json} (hvalue : ReadsBack depth m.2)
    (hfuel : 2 * (print m.2).length ≤ fuel + 1) (tail : List Char) :
    readMember (fuel + 2) depth (printMember m ++ tail) =
      match readMembers (fuel + 1) depth false tail with
      | .error stop => .error stop
      | .ok (pairs, rest) => .ok (m :: pairs, rest) := by
  have hcolon : skipBlanks (':' :: ' ' :: (print m.2 ++ tail))
      = ':' :: ' ' :: (print m.2 ++ tail) := rfl
  rw [printMember_append, readMember]
  simp only [readText_printed, hcolon, readValue_blank, hvalue (fuel + 1) tail hfuel]
  cases readMembers (fuel + 1) depth false tail with
  | error stop => rfl
  | ok read => simp only [String.ofList_toList]

theorem readMembers_end (fuel depth : Nat) (first : Bool) (rest : List Char) :
    readMembers (fuel + 1) depth first ('\x7d' :: rest) = .ok ([], rest) := by
  rw [readMembers]
  rfl

theorem readMembers_first (fuel depth : Nat) (m : String × Json) (tail : List Char) :
    readMembers (fuel + 1) depth true (printMember m ++ tail)
      = readMember fuel depth (printMember m ++ tail) := by
  rw [printMember_append, readMembers]
  rfl

theorem readMembers_later (fuel depth : Nat) (m : String × Json) (tail : List Char) :
    readMembers (fuel + 1) depth false (',' :: ' ' :: (printMember m ++ tail))
      = readMember fuel depth (printMember m ++ tail) := by
  rw [printMember_append, readMembers]
  rfl

theorem length_printMember (m : String × Json) :
    (print m.2).length + 4 ≤ (printMember m).length := by
  simp only [printMember, printString, List.length_append, List.length_cons, List.length_nil]
  omega

/-- Members are read back if their values are, up to the brace that closes the object. -/
theorem readMember_printed {depth : Nat} {m : String × Json} {later : List (String × Json)}
    (hvalues : ∀ m' ∈ m :: later, ReadsBack depth m'.2) {fuel : Nat} (rest : List Char)
    (hfuel : 2 * ((printMember m).length + (printLater later).length) ≤ fuel + 1) :
    readMember (fuel + 2) depth (printMember m ++ (printLater later ++ '\x7d' :: rest))
      = .ok (m :: later, rest) := by
  -- The members after the first have fuel of their own: a member is longer than its value by four
  -- characters at least, and takes two units of fuel besides those for its value.
  induction later generalizing m fuel with
  | nil =>
    have hmember := length_printMember m
    have hend : printLater [] ++ '\x7d' :: rest = '\x7d' :: rest := rfl
    rw [readMember_cons (hvalues m List.mem_cons_self) (by omega), hend, readMembers_end]
  | cons m' later ih =>
    obtain ⟨hvalue, hvalues⟩ := List.forall_mem_cons.mp hvalues
    have hmember := length_printMember m
    have hlater : printLater (m' :: later) = [',', ' '] ++ printMember m' ++ printLater later := rfl
    rw [hlater, List.length_append, List.length_append] at hfuel
    obtain ⟨k, rfl⟩ : ∃ k, fuel = k + 2 := ⟨fuel - 2, by omega⟩
    have hnext : readMember (k + 2) depth (printMember m' ++ (printLater later ++ '\x7d' :: rest))
        = .ok (m' :: later, rest) := ih hvalues (by omega)
    have htail : printLater (m' :: later) ++ '\x7d' :: rest
        = ',' :: ' ' :: (printMember m' ++ (printLater later ++ '\x7d' :: rest)) := by
      rw [hlater]
      simp only [List.append_assoc, List.cons_append, List.nil_append]
    rw [readMember_cons hvalue (by omega), htail, readMembers_later, hnext]

/-- An object is read back if the values of its members are. -/
theorem readsBack_object {depth : Nat} {members : List (String × Json)} (hdepth : 0 < depth)
    (hnames : (members.map Prod.fst).Nodup) (hvalues : ∀ m ∈ members, ReadsBack depth m.2) :
    ReadsBack (depth + 1) (.object members) := by
  intro fuel rest hfuel
  have hprint : print (.object members) = '\x7b' :: printMembers members ++ ['\x7d'] := by
    rw [print]
  have htext : print (.object members) ++ rest
      = '\x7b' :: (printMembers members ++ '\x7d' :: rest) := by
    rw [hprint, List.append_assoc]
    rfl
  have hlength : (print (.object members)).length = (printMembers members).length + 2 := by
    rw [hprint, List.length_append, List.length_cons]
    rfl
  obtain ⟨k, rfl⟩ : ∃ k, fuel = k + 4 := ⟨fuel - 4, by omega⟩
  have hmembers : readMembers (k + 3) depth true (printMembers members ++ '\x7d' :: rest)
      = .ok (members, rest) := by
    cases members with
    | nil => exact readMembers_end (k + 2) depth true rest
    | cons m later =>
      rw [printMembers_cons, List.length_append] at hlength
      rw [printMembers_cons, List.append_assoc, readMembers_first,
        readMember_printed hvalues rest (by omega)]
  have hblanks : skipBlanks ('\x7b' :: (printMembers members ++ '\x7d' :: rest))
      = '\x7b' :: (printMembers members ++ '\x7d' :: rest) := rfl
  rw [htext, readValue, hblanks]
  simp only [if_neg (by omega : ¬ depth + 1 ≤ 1), Nat.add_sub_cancel, hmembers,
    Members.ofList_of_nodup hnames]

/-- There is fuel left to read a text that is not empty. -/
theorem exists_fuel {n fuel : Nat} (hfuel : 2 * n ≤ fuel) (hn : 0 < n) : ∃ k, fuel = k + 1 :=
  ⟨fuel - 1, by omega⟩

theorem readsBack_null (depth : Nat) : ReadsBack depth .null := by
  intro fuel rest hfuel
  have hprint : print .null = ['n', 'u', 'l', 'l'] := by rw [print]
  rw [hprint] at hfuel ⊢
  obtain ⟨k, rfl⟩ := exists_fuel hfuel (by decide)
  rw [readValue]
  rfl

theorem readsBack_bool (depth : Nat) (b : Bool) : ReadsBack depth (.bool b) := by
  intro fuel rest hfuel
  cases b with
  | true =>
    have hprint : print (.bool true) = ['t', 'r', 'u', 'e'] := by rw [print]
    rw [hprint] at hfuel ⊢
    obtain ⟨k, rfl⟩ := exists_fuel hfuel (by decide)
    rw [readValue]
    rfl
  | false =>
    have hprint : print (.bool false) = ['f', 'a', 'l', 's', 'e'] := by rw [print]
    rw [hprint] at hfuel ⊢
    obtain ⟨k, rfl⟩ := exists_fuel hfuel (by decide)
    rw [readValue]
    rfl

theorem readsBack_string (depth : Nat) (s : String) : ReadsBack depth (.string s) := by
  intro fuel rest hfuel
  have hprint : print (.string s) = '"' :: s.toList.flatMap printChar ++ ['"'] := by
    rw [print, printString]
  have htext : print (.string s) ++ rest = '"' :: (s.toList.flatMap printChar ++ '"' :: rest) := by
    rw [hprint, List.append_assoc]
    rfl
  have hlength : 0 < (print (.string s)).length := by
    rw [hprint]
    exact Nat.succ_pos _
  obtain ⟨k, rfl⟩ := exists_fuel hfuel hlength
  have hblanks : skipBlanks ('"' :: (s.toList.flatMap printChar ++ '"' :: rest))
      = '"' :: (s.toList.flatMap printChar ++ '"' :: rest) := rfl
  rw [htext, readValue, hblanks]
  simp only [readText_printed, String.ofList_toList]

/-- **A plain value is read back** where the nesting is allowed. -/
theorem Plain.readsBack {n depth : Nat} {v : Json} (h : Plain n v) (hdepth : n < depth) :
    ReadsBack depth v := by
  induction h generalizing depth with
  | null n => exact readsBack_null depth
  | bool n b => exact readsBack_bool depth b
  | string n s => exact readsBack_string depth s
  | object hnames hmembers ih =>
    obtain ⟨d, rfl⟩ : ∃ d, depth = d + 1 := ⟨depth - 1, by omega⟩
    exact readsBack_object (by omega) hnames fun m hm => ih m hm (by omega)

/-! ## Documents -/

/-- **A plain document reads back as the value it was printed from.** -/
theorem read_toDocument {n : Nat} {v : Json} (h : Plain n v) (hdepth : n < depthLimit) :
    read (toDocument v) = .ok v := by
  have hvalue : readValue (4 * (print v).length + 4) depthLimit (print v) = .ok (v, []) := by
    have hback := h.readsBack hdepth (4 * (print v).length + 4) [] (by omega)
    rwa [List.append_nil] at hback
  unfold read toDocument readChars
  rw [String.toList_ofList, hvalue]
  rfl

end Handover.Json
