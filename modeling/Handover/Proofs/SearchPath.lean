/-
  The search path without the working directory.

  An entry of the search path is a path, and a directory has many: `.`, `a/..`, `///w/` and `/w/.`
  may all name the same one.  The entries that name the working directory are told by their normal
  form, which is made from the text alone.

  1. **Locations** — where a path leads from a location if no link is in the way (`reach`).  In a
     tree without links a path that can be followed at all leads there (`Tree.LinkFree.locate`).
  2. **Normal forms** — under a root the pieces of a normal form are the names on the way to the
     location, the last one first (`foldl_climb`, by induction on the pieces: a piece that goes up
     never stays).  So the normal form of an entry is told by the location that it leads to and by
     the slashes that it begins with (`absolute_eq`).
  3. **Slashes** — the working directory is given with one slash.  A normal form begins with one
     too, except that two slashes stay two (`leadingSlashes_of_root`).
  4. **The entries** — `only_two_slashes_stay`: what is taken away are the entries that lead to the
     working directory, except those that begin with exactly two slashes.
-/
import Handover.Interpreter.SearchPath
import Handover.Machine.World
import Handover.Proofs.WorkingDirectory

namespace Handover

open Handover.Path (slash dot pieces ofPieces isSilent isAbsolute)

/-! ## Locations -/

namespace Files

/-- One piece further on from a location, with no link in the way. -/
def step (here : Location) (piece : Bytes) : Location :=
  if isSilent piece then here
  else if piece = [dot, dot] then here.tail
  else piece :: here

/-- Where a path leads from a location, with no link in the way. -/
def reach (here : Location) (path : Path) : Location :=
  (pieces path).foldl step (if isAbsolute path then [] else here)

/-- A piece that is the name of an entry of a directory. -/
def IsName (piece : Bytes) : Prop := slash ∉ piece ∧ isSilent piece = false ∧ piece ≠ [dot, dot]

instance (piece : Bytes) : Decidable (IsName piece) :=
  inferInstanceAs (Decidable (_ ∧ _ ∧ _))

/-- A location is reached by names only. -/
def Proper (here : Location) : Prop := ∀ name ∈ here, IsName name

instance (here : Location) : Decidable (Proper here) :=
  inferInstanceAs (Decidable (∀ name ∈ here, IsName name))

theorem step_name {name : Bytes} (h : IsName name) (here : Location) :
    step here name = name :: here := by
  rw [step, h.2.1, if_neg Bool.false_ne_true, if_neg h.2.2]

/-- The names on the way to a location, from the root on. -/
theorem Proper.names {here : Location} (h : Proper here) : ∀ name ∈ here.reverse, IsName name :=
  fun name hname => h name (List.mem_reverse.mp hname)

/-- A step from a location leads to a location. -/
theorem Proper.step {here : Location} (h : Proper here) {piece : Bytes} (hslash : slash ∉ piece) :
    Proper (step here piece) := by
  unfold Files.step
  split
  case isTrue => exact h
  case isFalse hloud =>
    split
    case isTrue => exact fun name hname => h name (List.mem_of_mem_tail hname)
    case isFalse hup =>
      exact List.forall_mem_cons.mpr ⟨⟨hslash, Bool.not_eq_true _ ▸ hloud, hup⟩, h⟩

theorem Proper.foldl_step {here : Location} (h : Proper here) {ps : List Bytes}
    (hslash : ∀ piece ∈ ps, slash ∉ piece) : Proper (ps.foldl Files.step here) := by
  induction ps generalizing here with
  | nil => exact h
  | cons piece rest ih =>
    obtain ⟨hpiece, hrest⟩ := List.forall_mem_cons.mp hslash
    exact ih (h.step hpiece) hrest

theorem Proper.reach {here : Location} (h : Proper here) (path : Path) :
    Proper (reach here path) := by
  refine Proper.foldl_step ?_ fun piece hpiece => Path.slash_notMem_of_mem_pieces hpiece
  split
  · exact List.forall_mem_nil _
  · exact h

/-- The names on the way to a location lead there from the root. -/
theorem foldl_step_names {names : List Bytes} (h : ∀ name ∈ names, IsName name)
    (here : Location) : names.foldl step here = names.reverse ++ here := by
  induction names generalizing here with
  | nil => rfl
  | cons name rest ih =>
    obtain ⟨hname, hrest⟩ := List.forall_mem_cons.mp h
    rw [List.foldl_cons, step_name hname, ih hrest, List.reverse_cons, List.append_assoc,
      List.singleton_append]

/-- What is put together from names leads along them. -/
theorem foldl_step_ofPieces {names : List Bytes} (h : ∀ name ∈ names, IsName name) :
    (pieces (ofPieces names)).foldl step [] = names.reverse := by
  by_cases hnil : names = []
  · rw [hnil]
    rfl
  · rw [Path.pieces_ofPieces hnil fun name hname => (h name hname).1, foldl_step_names h,
      List.append_nil]

/-- What is put together from names does not begin with a separator. -/
theorem head?_ofPieces {names : List Bytes} (h : ∀ name ∈ names, IsName name) :
    (ofPieces names).head? ≠ some slash := by
  cases names with
  | nil => nofun
  | cons name rest =>
    obtain ⟨⟨hslash, hloud, -⟩, -⟩ := List.forall_mem_cons.mp h
    cases name with
    | nil => cases hloud
    | cons b more =>
      have hb : b ≠ slash := fun hb => hslash (hb ▸ List.mem_cons_self)
      cases rest with
      | nil => simpa [ofPieces] using hb
      | cons second rest => simpa [ofPieces] using hb

/-- A path is followed from where the path before it leads. -/
theorem foldl_step_join (start : Location) {base tail : Path} (h : isAbsolute tail = false) :
    (pieces (Path.join base tail)).foldl step start
      = (pieces tail).foldl step ((pieces base).foldl step start) := by
  rw [Path.join_of_relative h, Path.separatorAfter]
  by_cases hnil : base = []
  · rw [if_pos (Or.inl hnil), hnil]
    rfl
  · by_cases hlast : base.getLast? = some slash
    · -- The separator is there already, and the empty piece behind it leads nowhere.
      obtain ⟨front, rfl⟩ := List.getLast?_eq_some_iff.mp hlast
      rw [if_pos (Or.inr hlast), List.append_nil, List.append_assoc, List.singleton_append,
        Path.pieces_append, Path.pieces_append, List.foldl_append, List.foldl_append]
      rfl
    · rw [if_neg (not_or.mpr ⟨hnil, hlast⟩), List.append_assoc, List.singleton_append,
        Path.pieces_append, List.foldl_append]

/-! ### Trees without links -/

/-- No link stands in a tree. -/
def Tree.LinkFree (t : Tree) : Prop := ∀ at_ target, t.node? at_ ≠ some (.symlink target)

section LinkFree

variable {t : Tree} {through : Bool} {here there : Location} {path : Path}

/-- Without links pieces are followed step by step. -/
theorem Tree.LinkFree.advance (h : t.LinkFree) {ps : List Bytes} {progress : Progress}
    (hok : t.advance through here ps = .ok progress) :
    progress = .arrived (ps.foldl step here) := by
  induction ps generalizing here with
  | nil =>
    cases hok
    rfl
  | cons piece rest ih =>
    rw [Tree.advance] at hok
    -- The branches of one step: all that end it are errors, but for a link, and there is none.
    rw [List.foldl_cons, step]
    split at hok
    case h_1 => cases hok
    case h_2 =>
      by_cases hsilent : isSilent piece = true
      · rw [if_pos hsilent] at hok ⊢
        exact ih hok
      · rw [if_neg hsilent] at hok ⊢
        by_cases hup : piece = [dot, dot]
        · rw [if_pos hup] at hok ⊢
          exact ih hok
        · rw [if_neg hup] at hok ⊢
          split at hok
          · cases hok
          · split at hok
            case h_1 => cases hok
            case h_2 target hlink => exact absurd hlink (h _ target)
            case h_3 => exact ih hok
    case h_3 => cases hok

/-- **In a tree without links a path that can be followed leads where its pieces say.** -/
theorem Tree.LinkFree.locate (h : t.LinkFree) (hok : t.locate here through path = .ok there) :
    there = reach here path := by
  unfold Tree.locate at hok
  split at hok
  · cases hok
  · split at hok
    · cases hok
    · split at hok
      · cases hok
      · unfold Tree.follow at hok
        split at hok
        case h_1 => cases hok
        case h_2 at_ hadvance =>
          cases hok
          cases h.advance hadvance
          rfl
        case h_3 hadvance => cases h.advance hadvance

end LinkFree

/-- A separator before every name is one before the first and one between any two. -/
theorem flatMap_slash {names : List Bytes} (h : names ≠ []) :
    names.flatMap (fun name => slash :: name) = slash :: ofPieces names := by
  induction names with
  | nil => exact absurd rfl h
  | cons name rest ih =>
    by_cases hrest : rest = []
    · rw [hrest, List.flatMap_singleton]
      rfl
    · rw [List.flatMap_cons, ih hrest, Path.ofPieces_cons hrest, List.cons_append]

/-- The path of a location is a separator and the names on the way. -/
theorem pathOf_eq (here : Location) :
    Machine.World.pathOf here = slash :: ofPieces here.reverse := by
  unfold Machine.World.pathOf
  by_cases hnil : here = []
  · rw [if_pos hnil, hnil]
    rfl
  · rw [if_neg hnil]
    exact flatMap_slash (mt List.reverse_eq_nil_iff.mp hnil)

end Files

open Handover.Files (Location Proper reach)

namespace Interpreter

/-! ## Normal forms -/

/-- A step of a normal form under a root is a step from a location: no piece that goes up stays. -/
theorem climb_eq_step {done : Location} (h : Proper done) (piece : Bytes) :
    climb true done piece = Files.step done piece := by
  -- A piece that goes up would stay only behind another one, and names are no such pieces.
  have hhead : done.head? ≠ some up := by
    intro hhead
    exact (h up (List.mem_of_head? hhead)).2.2 rfl
  unfold climb Files.step
  by_cases hsilent : isSilent piece = true
  · rw [if_pos hsilent, if_pos hsilent]
  · rw [if_neg hsilent, if_neg hsilent]
    by_cases hup : piece = [dot, dot]
    · rw [if_pos hup, if_neg]
      rintro (hne | ⟨hroot, -⟩ | hmore)
      · exact hne hup
      · cases hroot
      · exact hhead hmore
    · have hname : piece ≠ up := hup
      rw [if_neg hup, if_pos (Or.inl hname)]

theorem foldl_climb {done : Location} (h : Proper done) {ps : List Bytes}
    (hslash : ∀ piece ∈ ps, slash ∉ piece) :
    ps.foldl (climb true) done = ps.foldl Files.step done := by
  induction ps generalizing done with
  | nil => rfl
  | cons piece rest ih =>
    obtain ⟨hpiece, hrest⟩ := List.forall_mem_cons.mp hslash
    rw [List.foldl_cons, List.foldl_cons, climb_eq_step h, ih (h.step hpiece) hrest]

/-- A path begins with two slashes and no third. -/
def hasTwoSlashes : Path → Bool
  | a :: b :: rest => a == slash && b == slash && rest.head? != some slash
  | _ => false

/-- Under a root a normal form begins with one slash, unless the path begins with exactly two. -/
theorem leadingSlashes_of_root (tail : Path) :
    leadingSlashes (slash :: tail) = if hasTwoSlashes (slash :: tail) then 2 else 1 := by
  match tail with
  | [] => rfl
  | [b] =>
    by_cases hb : b = slash
    · rw [hb]
      rfl
    · simp [leadingSlashes, hasTwoSlashes, hb]
  | b :: c :: rest =>
    by_cases hb : b = slash
    · by_cases hc : c = slash
      · simp [leadingSlashes, hasTwoSlashes, hb, hc]
      · simp [leadingSlashes, hasTwoSlashes, hb, hc]
    · simp [leadingSlashes, hasTwoSlashes, hb]

theorem hasTwoSlashes_of_relative {p : Path} (h : isAbsolute p = false) :
    hasTwoSlashes p = false := by
  match p with
  | [] => rfl
  | [a] => rfl
  | a :: b :: rest =>
    have ha : ¬ a = slash := by simpa [isAbsolute] using h
    simp [hasTwoSlashes, ha]

theorem hasTwoSlashes_of_one {tail : Path} (h : tail.head? ≠ some slash) :
    hasTwoSlashes (slash :: tail) = false := by
  cases tail with
  | nil => rfl
  | cons b rest =>
    have hb : ¬ b = slash := by simpa using h
    simp [hasTwoSlashes, hb]

/-- The normal form of an absolute path: its slashes, and the way to where it leads. -/
theorem normalise_of_isAbsolute {p : Path} (h : isAbsolute p = true) :
    normalise p = List.replicate (if hasTwoSlashes p then 2 else 1) slash
      ++ ofPieces ((pieces p).foldl Files.step []).reverse := by
  obtain ⟨tail, rfl⟩ : ∃ tail, p = slash :: tail := by
    unfold isAbsolute at h
    exact List.head?_eq_some_iff.mp (beq_iff_eq.mp h)
  have hrooted : ((if hasTwoSlashes (slash :: tail) then 2 else 1) != 0) = true := by
    split <;> rfl
  have hpieces : ∀ piece ∈ pieces (slash :: tail), slash ∉ piece := fun piece hpiece =>
    Path.slash_notMem_of_mem_pieces hpiece
  have hnonempty : List.replicate (if hasTwoSlashes (slash :: tail) then 2 else 1) slash
      ++ ofPieces ((pieces (slash :: tail)).foldl Files.step []).reverse ≠ [] := by
    refine List.append_ne_nil_of_left_ne_nil ?_ _
    split <;> exact List.cons_ne_nil _ _
  unfold normalise
  simp only [leadingSlashes_of_root, hrooted, foldl_climb (List.forall_mem_nil _) hpieces,
    if_neg hnonempty]

/-! ## The entries -/

section Entries

variable {here : Location}

/-- The path of a location leads there. -/
theorem foldl_step_pathOf (h : Proper here) :
    (pieces (Machine.World.pathOf here)).foldl Files.step [] = here := by
  have hroot : pieces (slash :: ofPieces here.reverse) = [] :: pieces (ofPieces here.reverse) :=
    Path.pieces_append [] _
  rw [Files.pathOf_eq, hroot, List.foldl_cons]
  exact (Files.foldl_step_ofPieces h.names).trans (List.reverse_reverse here)

/-- An entry is followed from the working directory. -/
theorem foldl_step_join_pathOf (h : Proper here) (e : Path) :
    (pieces (Path.join (Machine.World.pathOf here) e)).foldl Files.step [] = reach here e := by
  unfold reach
  by_cases habsolute : isAbsolute e = true
  · rw [if_pos habsolute, Path.join, if_pos habsolute]
  · rw [if_neg habsolute, Files.foldl_step_join [] (Bool.not_eq_true _ ▸ habsolute),
      foldl_step_pathOf h]

/-- The path of a location begins with one slash, whatever is joined to it. -/
theorem hasTwoSlashes_join (h : Proper here) (e : Path) :
    hasTwoSlashes (Path.join (Machine.World.pathOf here) e) = hasTwoSlashes e := by
  by_cases habsolute : isAbsolute e = true
  · rw [Path.join, if_pos habsolute]
  · have hrelative : isAbsolute e = false := Bool.not_eq_true _ ▸ habsolute
    rw [hasTwoSlashes_of_relative hrelative, Path.join_of_relative hrelative, Files.pathOf_eq,
      List.append_assoc, List.cons_append]
    refine hasTwoSlashes_of_one ?_
    cases hway : ofPieces here.reverse with
    | nil =>
      -- At the root the entry itself comes behind the slash.
      intro hhead
      have hslash : isAbsolute e = true := beq_iff_eq.mpr hhead
      exact habsolute hslash
    | cons b more =>
      have hhead := Files.head?_ofPieces h.names
      rw [hway] at hhead
      exact hhead

/-- **The absolute form of an entry** is told by where it leads and by the slashes before it. -/
theorem absolute_eq (h : Proper here) (e : Path) :
    absolute (Machine.World.pathOf here) e
      = List.replicate (if hasTwoSlashes e then 2 else 1) slash
        ++ ofPieces (reach here e).reverse := by
  have hroot : isAbsolute (Machine.World.pathOf here) = true := by
    rw [Files.pathOf_eq]
    rfl
  have hjoin : isAbsolute (Path.join (Machine.World.pathOf here) e) = true :=
    Path.isAbsolute_join hroot e
  rw [absolute, normalise_of_isAbsolute hjoin, hasTwoSlashes_join h, foldl_step_join_pathOf h]

/-- An entry has the working directory for its absolute form if it leads there and does not begin
    with two slashes. -/
theorem absolute_eq_pathOf_iff (h : Proper here) (e : Path) :
    absolute (Machine.World.pathOf here) e = Machine.World.pathOf here
      ↔ reach here e = here ∧ hasTwoSlashes e = false := by
  rw [absolute_eq h, Files.pathOf_eq]
  cases htwo : hasTwoSlashes e with
  | true =>
    -- A second slash would have to begin a name.
    refine iff_of_false (fun heq => Files.head?_ofPieces h.names ?_) (fun hboth => nomatch hboth.2)
    have htail : slash :: ofPieces (reach here e).reverse = ofPieces here.reverse :=
      (List.cons.inj heq).2
    rw [← htail]
    rfl
  | false =>
    have hone : ∀ names : Location, List.replicate (if false = true then 2 else 1) slash
        ++ ofPieces names.reverse = slash :: ofPieces names.reverse := fun _ => rfl
    rw [hone, List.cons.injEq]
    constructor
    · rintro ⟨-, heq⟩
      have hback := congrArg (fun bytes => (pieces bytes).foldl Files.step []) heq
      simp only [Files.foldl_step_ofPieces h.names, Files.foldl_step_ofPieces (h.reach e).names,
        List.reverse_reverse] at hback
      exact ⟨hback, rfl⟩
    · rintro ⟨heq, -⟩
      exact ⟨rfl, by rw [heq]⟩

/-- The entries that name the working directory as they are lead to it. -/
theorem reach_of_isBareCwd {e : Path} (h : isBareCwd e = true) (here : Location) :
    reach here e = here ∧ hasTwoSlashes e = false := by
  rw [isBareCwd, Bool.or_eq_true, beq_iff_eq, beq_iff_eq] at h
  rcases h with rfl | rfl
  · exact ⟨rfl, rfl⟩
  · exact ⟨rfl, rfl⟩

/-- **What is left of the search path**: all entries in their order, but for those that lead to the
    working directory and do not begin with two slashes. -/
theorem withoutCwd_eq_filter (h : Proper here) (entries : List Path) :
    withoutCwd (some (Machine.World.pathOf here)) entries
      = entries.filter fun e => ¬ (reach here e = here ∧ hasTwoSlashes e = false) := by
  show (entries.filter _).filter _ = _
  rw [List.filter_filter]
  refine List.filter_congr fun e _ => ?_
  cases hbare : isBareCwd e with
  | true =>
    have hcwd := reach_of_isBareCwd hbare here
    simp [hcwd]
  | false =>
    have habsolute : (absolute (Machine.World.pathOf here) e != Machine.World.pathOf here) = true
        ↔ ¬ (reach here e = here ∧ hasTwoSlashes e = false) :=
      bne_iff_ne.trans (not_congr (absolute_eq_pathOf_iff h e))
    rw [Bool.not_false, Bool.and_true, Bool.eq_iff_iff, habsolute, decide_eq_true_iff]

end Entries

/-- **Only entries that begin with two slashes stay.**  For every working directory and every search
    path

  1. what is left are the entries in their order, each as often as before, without those that lead
     to the working directory and do not begin with exactly two slashes;
  2. so every entry that is taken away leads to the working directory;
  3. and an entry that is left and leads there begins with exactly two slashes;
  4. where an entry leads is where it is followed to in any tree of files without links;
  5. if the working directory cannot be told, just the empty entry and `.` are taken away. -/
theorem only_two_slashes_stay {here : Location} (h : Proper here) (entries : List Path) :
    withoutCwd (some (Machine.World.pathOf here)) entries
      = entries.filter (fun e => ¬ (reach here e = here ∧ hasTwoSlashes e = false)) ∧
    (∀ e ∈ entries, e ∉ withoutCwd (some (Machine.World.pathOf here)) entries →
      reach here e = here) ∧
    (∀ e ∈ withoutCwd (some (Machine.World.pathOf here)) entries, reach here e = here →
      hasTwoSlashes e = true) ∧
    (∀ t : Files.Tree, t.LinkFree → ∀ through e there, t.locate here through e = .ok there →
      there = reach here e) ∧
    withoutCwd none entries = entries.filter fun e => e ≠ [] ∧ e ≠ [dot] := by
  have hleft := withoutCwd_eq_filter h entries
  refine ⟨hleft, fun e he hgone => ?_, fun e hstays hcwd => ?_, fun t ht through e there hok => ?_,
    ?_⟩
  · rw [hleft, List.mem_filter, decide_eq_true_iff] at hgone
    have hboth := not_not.mp (not_and.mp hgone he)
    exact hboth.1
  · rw [hleft, List.mem_filter, decide_eq_true_iff] at hstays
    have htwo := not_and.mp hstays.2 hcwd
    exact Bool.not_eq_false _ ▸ htwo
  · exact ht.locate hok
  · refine List.filter_congr fun e _ => ?_
    rw [Bool.eq_iff_iff]
    simp [isBareCwd]

/-- In `/w/bin` six spellings of it are taken away, and one is left. -/
theorem spellings_of_w_bin : Proper [Path.ofString "bin", Path.ofString "w"] ∧
    withoutCwd (some (Path.ofString "/w/bin"))
        (["", "lib", ".", "../bin/", "///w//bin", "/w/bin/.", "//w/bin", "lib",
          "/../w/x/../bin"].map Path.ofString)
      = ["lib", "//w/bin", "lib"].map Path.ofString := by
  have hproper : Proper [Path.ofString "bin", Path.ofString "w"] := by decide
  refine ⟨hproper, ?_⟩
  have hleft := (only_two_slashes_stay hproper
    (["", "lib", ".", "../bin/", "///w//bin", "/w/bin/.", "//w/bin", "lib",
      "/../w/x/../bin"].map Path.ofString)).1
  exact hleft.trans (by decide)

/-- **Two slashes are kept**: in `/w` the entry `//w` stays on the search path, and every tree
    follows it to `/w`. -/
theorem two_slashes_kept :
    ∃ e ∈ withoutCwd (some (Machine.World.pathOf [Path.ofString "w"])) [Path.ofString "//w"],
      reach [Path.ofString "w"] e = [Path.ofString "w"] ∧
      (Files.Tree.empty.put [Path.ofString "w"] .directory).locate [Path.ofString "w"] true e
        = .ok [Path.ofString "w"] := by
  refine ⟨Path.ofString "//w", by decide, by decide, by rfl⟩

end Interpreter

end Handover
