/-
  The parent of a path, and what lies beside a package.

  A parent is worked out on the bytes, backwards from the end, and it is a part of them.  What it
  names is nevertheless told by the components alone:

  1. **Pieces** — taking a path to pieces and putting them together again are inverse to each other
     (`ofPieces_pieces`, `pieces_ofPieces`), and what stands behind the last loud piece names
     nothing (`exists_last_loud`).
  2. **Parents** — the components of a parent are those of the path without the last, for every
     spelling of the path (`components_of_parent?`).  Up to a separator the parent has the bytes of
     the path, so that the two start in the same way.  Only the empty path and a root have no parent
     (`components_of_parent?_eq_none`).
  3. **Beside a package** — so the directory `bin` takes the place of the last component of the
     package (`components_binBeside`).
  4. **Places** — where a path leads if every `..` takes away the name before it (`lexicalPlace`).
     `beside_the_package` puts these together: the file beside a package lies where `../bin` leads
     from the package, and beside a launcher in some `bin` it lies in that directory.
-/
import Mathlib.Data.List.DropRight
import Handover.Proofs.CandidatePaths

namespace Handover

namespace Path

/-! ## Pieces -/

theorem slash_notMem_of_mem_pieces {bytes piece : Bytes} (h : piece ∈ pieces bytes) :
    slash ∉ piece := by
  induction bytes generalizing piece with
  | nil =>
    rw [pieces, List.mem_singleton] at h
    rw [h]
    exact List.not_mem_nil
  | cons b rest ih =>
    rw [pieces] at h
    by_cases hb : b = slash
    · rw [if_pos hb, List.mem_cons] at h
      rcases h with rfl | h
      · exact List.not_mem_nil
      · exact ih h
    · rw [if_neg hb] at h
      cases hrest : pieces rest with
      | nil => exact absurd hrest (pieces_ne_nil rest)
      | cons first more =>
        rw [hrest] at h ih
        rcases List.mem_cons.mp h with rfl | h
        · have hfirst : slash ∉ first := ih List.mem_cons_self
          exact fun hmem => (List.mem_cons.mp hmem).elim (fun heq => hb heq.symm) hfirst
        · exact ih (List.mem_cons_of_mem _ h)

theorem ofPieces_cons {piece : Bytes} {more : List Bytes} (h : more ≠ []) :
    ofPieces (piece :: more) = piece ++ slash :: ofPieces more := by
  cases more with
  | nil => exact absurd rfl h
  | cons second more => rfl

/-- The pieces of a path have its bytes. -/
theorem ofPieces_pieces (bytes : Bytes) : ofPieces (pieces bytes) = bytes := by
  induction bytes with
  | nil => rfl
  | cons b rest ih =>
    rw [pieces]
    by_cases hb : b = slash
    · rw [if_pos hb, ofPieces_cons (pieces_ne_nil rest), ih, hb, List.nil_append]
    · rw [if_neg hb]
      cases hrest : pieces rest with
      | nil => exact absurd hrest (pieces_ne_nil rest)
      | cons first more =>
        rw [hrest] at ih
        rw [← ih]
        -- The byte goes before the first piece, whether another one follows or not.
        cases more with
        | nil => rfl
        | cons second more => rfl

theorem ofPieces_append {xs ys : List Bytes} (hxs : xs ≠ []) (hys : ys ≠ []) :
    ofPieces (xs ++ ys) = ofPieces xs ++ slash :: ofPieces ys := by
  induction xs with
  | nil => exact absurd rfl hxs
  | cons piece rest ih =>
    by_cases hrest : rest = []
    · rw [hrest, List.singleton_append, ofPieces_cons hys]
      rfl
    · rw [List.cons_append, ofPieces_cons (List.append_ne_nil_of_left_ne_nil hrest ys), ih hrest,
        ofPieces_cons hrest, List.append_assoc, List.cons_append]

/-- Pieces that are put together are taken apart again. -/
theorem pieces_ofPieces {ps : List Bytes} (hne : ps ≠ []) (h : ∀ piece ∈ ps, slash ∉ piece) :
    pieces (ofPieces ps) = ps := by
  induction ps with
  | nil => exact absurd rfl hne
  | cons piece rest ih =>
    obtain ⟨hpiece, hrest⟩ := List.forall_mem_cons.mp h
    by_cases hnil : rest = []
    · rw [hnil]
      exact pieces_of_slash_notMem hpiece
    · rw [ofPieces_cons hnil, pieces_append, pieces_of_slash_notMem hpiece, ih hnil hrest,
        List.singleton_append]

/-- What is dropped from the end of the pieces is silent. -/
theorem exists_silent (ps : List Bytes) :
    ∃ silent, ps = dropSilent ps ++ silent ∧ silent.filterMap Component.ofPiece? = [] := by
  refine ⟨ps.rtakeWhile isSilent, List.rdropWhile_append_rtakeWhile.symm, ?_⟩
  refine List.filterMap_eq_nil_iff.mpr fun piece hpiece => ?_
  rw [Component.ofPiece?, if_pos (List.mem_rtakeWhile_imp hpiece)]

/-- **The last loud piece**, with nothing but silent pieces behind it. -/
theorem exists_last_loud {ps : List Bytes} (h : dropSilent ps ≠ []) :
    ∃ front last c, dropSilent ps = front ++ [last] ∧ Component.ofPiece? last = some c ∧
      c ≠ .root := by
  have hlast : ¬ isSilent ((dropSilent ps).getLast h) = true :=
    List.rdropWhile_last_not isSilent ps h
  refine ⟨(dropSilent ps).dropLast, (dropSilent ps).getLast h, ?_⟩
  unfold Component.ofPiece?
  rw [if_neg hlast]
  split
  · exact ⟨_, (List.dropLast_append_getLast h).symm, rfl, nofun⟩
  · exact ⟨_, (List.dropLast_append_getLast h).symm, rfl, nofun⟩

/-! ## Parents -/

/-- A path is its start and the bytes after it. -/
theorem unanchor_bytes (p : Path) : (unanchor p).1.bytes ++ (unanchor p).2 = p := by
  cases p with
  | nil => rfl
  | cons b rest =>
    rw [unanchor]
    split
    case isTrue hb => rw [hb]; rfl
    case isFalse =>
      split
      case isTrue hcurrent => rw [hcurrent.1]; rfl
      case isFalse => rfl

theorem components_anchor (anchor : Anchor) : components anchor.bytes = anchor.components := by
  cases anchor <;> rfl

/-- A path with no loud piece is a leading `.`, or it has no parent. -/
theorem parent?_of_silent {p : Path} (h : dropSilent (pieces (unanchor p).2) = []) :
    parent? p = if (unanchor p).1 = .current then some [] else none := by
  unfold parent?
  simp only [h]
  cases (unanchor p).1 <;> rfl

/-- The parent is what stands before the last loud piece. -/
theorem parent?_of_loud {p : Path} {front : List Bytes} {last : Bytes}
    (h : dropSilent (pieces (unanchor p).2) = front ++ [last]) :
    parent? p = some ((unanchor p).1.bytes ++ ofPieces (dropSilent front)) := by
  unfold parent?
  simp only [h]
  split
  case h_1 heq => exact absurd heq (List.append_ne_nil_of_right_ne_nil _ (List.cons_ne_nil _ _))
  case h_2 => rw [List.dropLast_concat]

/-- With no loud piece there are no components after the start. -/
theorem components_of_silent {p : Path} (h : dropSilent (pieces (unanchor p).2) = []) :
    components p = (unanchor p).1.components := by
  obtain ⟨silent, hpieces, hsilent⟩ := exists_silent (pieces (unanchor p).2)
  rw [h, List.nil_append] at hpieces
  rw [components_eq, hpieces, hsilent, List.append_nil]

/-- The loud pieces at the front and those behind them, seen as a path of their own and what comes
    behind its last separator. -/
theorem components_of_pieces {p : Path} {qs ts : List Bytes} (hts : ts ≠ [])
    (h : pieces (unanchor p).2 = dropSilent qs ++ ts) :
    components p = components ((unanchor p).1.bytes ++ ofPieces (dropSilent qs))
      ++ ts.filterMap Component.ofPiece? := by
  by_cases hqs : dropSilent qs = []
  · rw [hqs, List.nil_append] at h
    rw [hqs, ofPieces, List.append_nil, components_anchor, components_eq, h]
  · have hloud : ofPieces (dropSilent qs) ≠ [] := by
      obtain ⟨front, last, c, hfront, hlast, -⟩ := exists_last_loud hqs
      have hne : last ≠ [] := by
        rintro rfl
        cases hlast
      rw [hfront]
      cases front with
      | nil => exact hne
      | cons first more =>
        rw [ofPieces_append (List.cons_ne_nil _ _) (List.cons_ne_nil _ _)]
        exact List.append_ne_nil_of_right_ne_nil _ (List.cons_ne_nil _ _)
    have hslash : ∀ piece ∈ ts, slash ∉ piece := fun piece hpiece =>
      slash_notMem_of_mem_pieces (h ▸ List.mem_append_right _ hpiece)
    -- The bytes are those of the front, a separator, and the rest.
    have hbytes : p
        = ((unanchor p).1.bytes ++ ofPieces (dropSilent qs)) ++ slash :: ofPieces ts := by
      rw [List.append_assoc, ← ofPieces_append hqs hts, ← h, ofPieces_pieces, unanchor_bytes]
    have hcomponents := components_append
      (List.append_ne_nil_of_right_ne_nil (unanchor p).1.bytes hloud) (ofPieces ts)
    rw [← hbytes, pieces_ofPieces hts hslash] at hcomponents
    exact hcomponents

/-- **The components of a parent are those of the path without the last**, however the path is
    spelled. -/
theorem components_of_parent? {p q : Path} (h : parent? p = some q) :
    ∃ c, components p = components q ++ [c] ∧ c ≠ .root := by
  by_cases hsilent : dropSilent (pieces (unanchor p).2) = []
  · rw [parent?_of_silent hsilent] at h
    split at h
    case isTrue hcurrent =>
      cases h
      rw [components_of_silent hsilent, hcurrent]
      exact ⟨.current, rfl, nofun⟩
    case isFalse => cases h
  · obtain ⟨front, last, c, hfront, hlast, hc⟩ := exists_last_loud hsilent
    rw [parent?_of_loud hfront] at h
    cases h
    obtain ⟨silent, hpieces, hbehind⟩ := exists_silent (pieces (unanchor p).2)
    obtain ⟨silent', hfront', hbefore⟩ := exists_silent front
    have hsplit : pieces (unanchor p).2 = dropSilent front ++ (silent' ++ [last] ++ silent) := by
      rw [hpieces, hfront, ← List.append_assoc, ← List.append_assoc, ← hfront']
    have hlater : (silent' ++ [last] ++ silent).filterMap Component.ofPiece? = [c] := by
      rw [List.filterMap_append, List.filterMap_append, hbefore, hbehind]
      simp [hlast]
    have hne : silent' ++ [last] ++ silent ≠ [] := by simp
    refine ⟨c, ?_, hc⟩
    rw [← hlater]
    exact components_of_pieces hne hsplit

/-- Only the empty path and a root have no parent. -/
theorem components_of_parent?_eq_none {p : Path} (h : parent? p = none) :
    components p = [] ∨ components p = [.root] := by
  by_cases hsilent : dropSilent (pieces (unanchor p).2) = []
  · rw [parent?_of_silent hsilent] at h
    rw [components_of_silent hsilent]
    cases hanchor : (unanchor p).1 with
    | root => exact Or.inr rfl
    | current => rw [hanchor] at h; cases h
    | none => exact Or.inl rfl
  · obtain ⟨front, last, c, hfront, -⟩ := exists_last_loud hsilent
    rw [parent?_of_loud hfront] at h
    cases h

/-! ## Beside a package -/

/-- The component that a name by itself is. -/
def Component.ofName (name : Bytes) : Component := if name = [dot, dot] then .up else .name name

theorem ofPiece?_of_loud {name : Bytes} (h : isSilent name = false) :
    Component.ofPiece? name = some (.ofName name) := by
  rw [Component.ofPiece?, h, if_neg Bool.false_ne_true, Component.ofName]
  split <;> rfl

/-- The components above a path.  Above nothing, and above a root, is the path itself. -/
def componentsAbove (p : Path) : List Component :=
  if p = [] ∨ components p = [.root] then components p else (components p).dropLast

theorem components_above (p : Path) : components ((parent? p).getD p) = componentsAbove p := by
  unfold componentsAbove
  cases hparent : parent? p with
  | none =>
    rcases components_of_parent?_eq_none hparent with hnil | hroot
    · rw [Option.getD_none, hnil, List.dropLast_nil, ite_self]
    · rw [Option.getD_none, if_pos (Or.inr hroot)]
  | some q =>
    obtain ⟨c, hcomponents, hc⟩ := components_of_parent? hparent
    rw [if_neg, hcomponents, List.dropLast_concat, Option.getD_some]
    rintro (hnil | hroot)
    · rw [hnil] at hparent
      cases hparent
    · rw [hcomponents] at hroot
      rcases List.append_eq_singleton_iff.mp hroot with ⟨-, hlast⟩ | ⟨-, hlast⟩
      · exact hc (List.singleton_inj.mp hlast)
      · cases hlast

/-! ## Places -/

/-- One component further on, from a place that is given by its components: `..` takes the name at
    the end away, and stays at a root. -/
def Component.follow (here : List Component) : Component → List Component
  | .root => [.root]
  | .current => here
  | .up =>
    match here.getLast? with
    | some (.name _) => here.dropLast
    | some .root => here
    | _ => here ++ [.up]
  | .name bytes => here ++ [.name bytes]

/-- Where components lead, told without looking at any directory. -/
def lexicalPlace (cs : List Component) : List Component := cs.foldl Component.follow []

/-- A name and the way up from it lead nowhere. -/
theorem lexicalPlace_name_up (front later : List Component) (bytes : Bytes) :
    lexicalPlace (front ++ .name bytes :: .up :: later) = lexicalPlace (front ++ later) := by
  unfold lexicalPlace
  rw [List.foldl_append, List.foldl_append, List.foldl_cons, List.foldl_cons]
  generalize front.foldl Component.follow [] = here
  have hup : Component.follow (Component.follow here (.name bytes)) .up = here := by
    simp only [Component.follow, List.getLast?_concat, List.dropLast_concat]
  rw [hup]

end Path

open Handover.Path (Component components componentsAbove lexicalPlace)

section Beside

variable {root : Path} {filename : String}

/-- **The directory `bin` takes the place of the last component of the package.** -/
theorem components_binBeside (root : Path) : components (binBeside root)
    = componentsAbove root ++ [.name (Path.ofString adjacentBinDir)] := by
  unfold binBeside
  rw [Path.components_join _ (by decide) (by decide), Path.components_above]
  rfl

/-- The file beside a package is the last component, behind the directory `bin`. -/
theorem components_adjacentBinPath (root : Path) (hslash : '/' ∉ filename.toList)
    (hname : filename ∉ ["", "."]) : components (adjacentBinPath root filename)
      = componentsAbove root ++ [.name (Path.ofString adjacentBinDir),
          .ofName (Path.ofString filename)] := by
  have hbytes : Path.slash ∉ Path.ofString filename := fun h => hslash (Path.slash_mem_ofString h)
  have hloud := Path.isSilent_ofString hname
  show components (Path.join (binBeside root) (Path.ofString filename)) = _
  rw [Path.components_join _ hbytes hloud, components_binBeside, Path.ofPiece?_of_loud hloud,
    List.append_assoc]
  rfl

/-- The components of the way up from a package and down into `bin`. -/
theorem components_upAndDown {p : Path} (hp : p ≠ []) (hslash : '/' ∉ filename.toList)
    (hname : filename ∉ ["", "."]) :
    components (p ++ Path.ofString "/../bin/" ++ Path.ofString filename)
      = components p ++ [.up, .name (Path.ofString adjacentBinDir),
          .ofName (Path.ofString filename)] := by
  have hbytes : Path.slash ∉ Path.ofString filename := fun h => hslash (Path.slash_mem_ofString h)
  have hway : p ++ Path.ofString "/../bin/" ++ Path.ofString filename
      = p ++ Path.slash :: (Path.ofString "../bin" ++ Path.slash :: Path.ofString filename) := by
    rw [List.append_assoc]
    rfl
  rw [hway, Path.components_append hp, Path.pieces_append, Path.pieces_of_slash_notMem hbytes,
    List.filterMap_append, List.filterMap_cons,
    Path.ofPiece?_of_loud (Path.isSilent_ofString hname)]
  rfl

/-- **The file beside a package.**  For every spelling of the package directory and every file name
    that is a piece of its own

  1. the components of the file's path are those above the package, `bin` and the name;
  2. it lies where `../bin` leads from the package, if the package has a name;
  3. a launcher in some directory `bin` that stands in for a package finds it in that directory. -/
theorem beside_the_package (root : Path) {filename : String} (hslash : '/' ∉ filename.toList)
    (hname : filename ∉ ["", "."]) :
    (components (adjacentBinPath root filename)
      = (if root = [] ∨ components root = [.root] then components root
          else (components root).dropLast)
        ++ [.name (Path.ofString "bin"), .ofName (Path.ofString filename)]) ∧
    (∀ bytes, (components root).getLast? = some (.name bytes) →
      lexicalPlace (components (adjacentBinPath root filename))
        = lexicalPlace (components
            (root ++ Path.ofString "/../bin/" ++ Path.ofString filename))) ∧
    ((components root).getLast? = some (.name (Path.ofString "bin")) →
      ∀ s : Host.Snapshot, s.packageDir = none →
        ∃ c, (adjacentCandidate (Host.Installation.mk s (some root)).provider filename).value
            = some c ∧
          components c.path = components root ++ [.ofName (Path.ofString filename)]) := by
  have hcomponents := components_adjacentBinPath root hslash hname
  -- With a name at the end there is something above the package.
  have habove : ∀ bytes, (components root).getLast? = some (.name bytes) →
      components root = componentsAbove root ++ [.name bytes] := by
    intro bytes hlast
    obtain ⟨front, hfront⟩ := List.getLast?_eq_some_iff.mp hlast
    rw [componentsAbove, if_neg, hfront, List.dropLast_concat]
    rintro (hnil | hroot)
    · rw [hnil] at hlast
      cases hlast
    · rw [hroot] at hlast
      cases hlast
  refine ⟨hcomponents, fun bytes hlast => ?_, fun hlast s hpackage => ?_⟩
  · have hroot : root ≠ [] := by
      rintro rfl
      cases hlast
    rw [components_upAndDown hroot hslash hname, habove bytes hlast, List.append_assoc,
      hcomponents]
    exact (Path.lexicalPlace_name_up _ _ bytes).symm
  · have hvalue : (adjacentCandidate (Host.Installation.mk s (some root)).provider filename).value
        = some ⟨.adjacentBin, adjacentBinPath root filename⟩ := by
      unfold adjacentCandidate Host.Installation.provider
      simp only [hpackage]
      rfl
    refine ⟨_, hvalue, ?_⟩
    rw [hcomponents, habove _ hlast, List.append_assoc]
    rfl

/-- A launcher in `./t//bin/.` that stands in for a package finds the tool in that directory, which
    is where `../bin` leads from there. -/
theorem beside_an_odd_root :
    '/' ∉ "tool.exe".toList ∧ "tool.exe" ∉ ["", "."] ∧
    lexicalPlace (components (adjacentBinPath (Path.ofString "./t//bin/.") "tool.exe"))
      = [.name (Path.ofString "t"), .name (Path.ofString "bin"),
          .name (Path.ofString "tool.exe")] ∧
    ∃ c, (adjacentCandidate (Host.Installation.mk
        { oddHost with packageDir := none } (some (Path.ofString "./t//bin/."))).provider
          "tool.exe").value = some c ∧
      components c.path = [.current, .name (Path.ofString "t"), .name (Path.ofString "bin"),
        .name (Path.ofString "tool.exe")] := by
  have hslash : '/' ∉ "tool.exe".toList := by decide
  have hname : "tool.exe" ∉ ["", "."] := by decide
  have hlast : (components (Path.ofString "./t//bin/.")).getLast?
      = some (.name (Path.ofString "bin")) := by decide
  obtain ⟨-, hplace, hlauncher⟩ := beside_the_package (Path.ofString "./t//bin/.") hslash hname
  refine ⟨hslash, hname, ?_, hlauncher hlast _ rfl⟩
  rw [hplace _ hlast]
  decide

end Beside

end Handover
