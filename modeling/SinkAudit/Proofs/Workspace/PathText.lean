import SinkAudit.Proofs.Text.Encoding
import SinkAudit.Proofs.Workspace.Walk

/-!
# The texts of paths

How the text of a path, the names it leads through and its parts go together.

* `Path.pieces_append_slash`: a slash separates the pieces.
* `Path.exists_parts`: the parts of a path are its names without the dots, after a first part that
  says where it starts.
* `Path.route_ofParts`: the shortest path with given parts leads through the same names.
* `Path.parent_sublist`: the path above is no longer than the path, so it has no fault if the path has
  none (`Workspace.pathFault?_parent`).
* `Workspace.Named.exists_parent`: the path above leads to the directory that the path stands in.
* `Workspace.named_withFileName`: a path with another file name ends with that name;
  `Workspace.Named.sibling`: and it stands in the same directory.
* `Workspace.names_ne_nil`: a path that ends without a slash has a last name.
-/

namespace SinkAudit

open Workspace

namespace Path

/-! ## Pieces -/

theorem pieces_slash (sofar s : List Char) :
    pieces sofar ('/' :: s) = String.ofList sofar.reverse :: pieces [] s := by
  rw [pieces]
  exact if_pos rfl

theorem pieces_cons {c : Char} (hc : c ≠ '/') (sofar s : List Char) :
    pieces sofar (c :: s) = pieces (c :: sofar) s := by
  rw [pieces]
  exact if_neg (by simpa using hc)

/-- A slash separates the pieces. -/
theorem pieces_append_slash (t : List Char) :
    ∀ s sofar : List Char, pieces sofar (s ++ '/' :: t) = pieces sofar s ++ pieces [] t
  | [], sofar => by rw [List.nil_append, pieces_slash, pieces, List.singleton_append]
  | c :: s, sofar => by
    rw [List.cons_append]
    by_cases hc : c = '/'
    · rw [hc, pieces_slash, pieces_slash, pieces_append_slash t s, List.cons_append]
    · rw [pieces_cons hc, pieces_cons hc, pieces_append_slash t s]

/-- A text without slashes is one piece. -/
theorem pieces_of_notMem :
    ∀ s sofar : List Char, '/' ∉ s → pieces sofar s = [String.ofList (sofar.reverse ++ s)]
  | [], sofar, _ => by rw [pieces, List.append_nil]
  | c :: s, sofar, h => by
    rw [pieces_cons (fun hc => h (hc ▸ List.mem_cons_self)),
      pieces_of_notMem s (c :: sofar) fun hs => h (List.mem_cons_of_mem c hs), List.reverse_cons,
      List.append_assoc, List.singleton_append]

theorem pieces_toList {s : String} (h : '/' ∉ s.toList) : pieces [] s.toList = [s] := by
  rw [pieces_of_notMem s.toList [] h, List.reverse_nil, List.nil_append, String.ofList_toList]

/-- A text is its pieces, each after a slash, but for the first slash. -/
theorem flatMap_pieces :
    ∀ s sofar : List Char,
      (pieces sofar s).flatMap (fun p => '/' :: p.toList) = '/' :: (sofar.reverse ++ s)
  | [], sofar => by simp [pieces]
  | c :: s, sofar => by
    by_cases hc : c = '/'
    · subst hc
      rw [pieces_slash, List.flatMap_cons, flatMap_pieces s [], String.toList_ofList]
      rfl
    · rw [pieces_cons hc, flatMap_pieces s (c :: sofar), List.reverse_cons, List.append_assoc,
        List.singleton_append]

/-- A path that has some of the pieces of another has some of its characters. -/
theorem toList_sublist {s t : String}
    (h : List.Sublist (pieces [] s.toList) (pieces [] t.toList)) :
    List.Sublist s.toList t.toList := by
  have hslash := h.flatMap fun p => '/' :: p.toList
  rw [flatMap_pieces, flatMap_pieces] at hslash
  exact List.cons_sublist_cons.mp hslash

/-- No piece has a slash in it. -/
theorem notMem_of_mem_pieces :
    ∀ (s sofar : List Char) {p : String}, '/' ∉ sofar → p ∈ pieces sofar s → '/' ∉ p.toList
  | [], sofar, p, hsofar, hp => by
    rw [pieces, List.mem_singleton] at hp
    rw [hp, String.toList_ofList, List.mem_reverse]
    exact hsofar
  | c :: s, sofar, p, hsofar, hp => by
    by_cases hc : c = '/'
    · rw [hc, pieces_slash] at hp
      rcases List.mem_cons.mp hp with rfl | hp
      · rw [String.toList_ofList, List.mem_reverse]
        exact hsofar
      · exact notMem_of_mem_pieces s [] (by simp) hp
    · rw [pieces_cons hc] at hp
      refine notMem_of_mem_pieces s (c :: sofar) (fun h => ?_) hp
      rcases List.mem_cons.mp h with h | h
      · exact hc h.symm
      · exact hsofar h

/-- The first piece, and whether there are more. -/
theorem exists_pieces_eq_cons :
    ∀ s sofar : List Char, ∃ rest,
      pieces sofar s = String.ofList (sofar.reverse ++ s.takeWhile (· != '/')) :: rest ∧
        (rest = [] ↔ '/' ∉ s)
  | [], sofar => ⟨[], by rw [pieces, List.takeWhile_nil, List.append_nil], by simp⟩
  | c :: s, sofar => by
    by_cases hc : c = '/'
    · refine ⟨pieces [] s, ?_, ?_⟩
      · rw [hc, pieces_slash, List.takeWhile_cons_of_neg (by simp), List.append_nil]
      · obtain ⟨rest, hrest, -⟩ := exists_pieces_eq_cons s []
        rw [hrest]
        exact iff_of_false (by simp) fun h => h (hc ▸ List.mem_cons_self)
    · obtain ⟨rest, hrest, hmem⟩ := exists_pieces_eq_cons s (c :: sofar)
      refine ⟨rest, ?_, ?_⟩
      · rw [pieces_cons hc, hrest, List.takeWhile_cons_of_pos (by simpa using hc),
          List.reverse_cons, List.append_assoc, List.singleton_append]
      · rw [hmem, List.mem_cons, not_or]
        exact ⟨fun h => ⟨fun h' => hc h'.symm, h⟩, fun h => h.2⟩

theorem startsWith_slash_iff {path : String} :
    path.startsWith "/" = true ↔ ∃ t, path.toList = '/' :: t := by
  have hslash : "/".toList = ['/'] := rfl
  rw [String.startsWith_string_iff, hslash]
  constructor
  · rintro ⟨t, ht⟩
    exact ⟨t, ht.symm⟩
  · rintro ⟨t, ht⟩
    exact ⟨t, ht.symm⟩

theorem endsWith_slash_iff {path : String} :
    path.endsWith "/" = true ↔ ∃ t, path.toList = t ++ ['/'] := by
  have hslash : "/".toList = ['/'] := rfl
  rw [String.endsWith_eq_endsWith_toSlice, String.Slice.endsWith_string_iff, String.copy_toSlice,
    hslash]
  constructor
  · rintro ⟨t, ht⟩
    exact ⟨t, ht.symm⟩
  · rintro ⟨t, ht⟩
    exact ⟨t, ht.symm⟩

/-- A path is absolute if its first piece is empty and not the last. -/
theorem absolute_iff {path first : String} {rest : List String}
    (h : pieces [] path.toList = first :: rest) :
    (route path).absolute = true ↔ first = "" ∧ rest ≠ [] := by
  obtain ⟨rest', hpieces, hmem⟩ := exists_pieces_eq_cons path.toList []
  rw [h, List.cons.injEq] at hpieces
  obtain ⟨hfirst, rfl⟩ := hpieces
  rw [route, startsWith_slash_iff, hfirst, Ne, hmem, Classical.not_not, List.reverse_nil,
    List.nil_append]
  constructor
  · rintro ⟨t, ht⟩
    rw [ht, List.takeWhile_cons_of_neg (by simp)]
    exact ⟨rfl, List.mem_cons_self⟩
  · rintro ⟨hempty, hslash⟩
    cases hlist : path.toList with
    | nil => rw [hlist] at hslash; exact absurd hslash (by simp)
    | cons c t =>
      by_cases hc : c = '/'
      · exact ⟨t, by rw [hc]⟩
      · rw [hlist, List.takeWhile_cons_of_pos (by simpa using hc)] at hempty
        have hnil := congrArg String.toList hempty
        rw [String.toList_ofList] at hnil
        exact absurd hnil (by simp)

theorem solid_names (path : String) :
    solid (route path).names = solid (pieces [] path.toList) := by
  rw [route, solid, solid, List.filter_filter]
  refine List.filter_congr fun k _ => ?_
  by_cases hk : k = ""
  · subst hk; rfl
  · have hempty : k.isEmpty = false := by
      rw [Bool.eq_false_iff]
      exact fun h => hk (String.isEmpty_iff.mp h)
    rw [hempty, Bool.not_false, Bool.and_true]

/-! ## Parts -/

/-- The part for a name that is more than a dot. -/
def partOf (s : String) : PathPart := if s == ".." then .up else .name s

theorem partText_partOf (s : String) : partText (partOf s) = s := by
  rw [partOf]
  by_cases hs : s = ".."
  · subst hs; rfl
  · rw [if_neg (by simpa using hs), partText]

theorem partOf_ne_root (s : String) : partOf s ≠ .root := by
  rw [partOf]
  split
  · simp
  · simp

theorem filterMap_part? : ∀ ks : List String, ks.filterMap part? = (solid ks).map partOf
  | [] => rfl
  | k :: ks => by
    by_cases hk : k = "." ∨ k = ""
    · have hpart : part? k = none := by rcases hk with rfl | rfl <;> rfl
      have hsolid : solid (k :: ks) = solid ks := by rcases hk with rfl | rfl <;> rfl
      rw [List.filterMap_cons_none hpart, hsolid, filterMap_part? ks]
    · rw [not_or] at hk
      have hempty : k.isEmpty = false := by
        rw [Bool.eq_false_iff]
        exact fun h => hk.2 (String.isEmpty_iff.mp h)
      have hpart : part? k = some (partOf k) := by
        rw [part?, partOf, hempty, if_neg (by simpa using hk.1)]
        split <;> rfl
      have hsolid : solid (k :: ks) = k :: solid ks :=
        List.filter_cons_of_pos (by simpa using hk)
      rw [List.filterMap_cons_some hpart, hsolid, filterMap_part? ks, List.map_cons]

/-- How parts may start: with the root, and so for absolute paths, with a dot, or with neither. -/
inductive Lead : Bool → List PathPart → Prop
  | root : Lead true [.root]
  | here : Lead false [.here]
  | none : Lead false []

/-- The parts of a path are its names without the dots, after what the path starts with. -/
theorem exists_parts (path : String) :
    ∃ lead, Lead (route path).absolute lead ∧
      parts path = lead ++ (solid (route path).names).map partOf := by
  rw [solid_names]
  obtain ⟨rest, hpieces, -⟩ := exists_pieces_eq_cons path.toList []
  generalize String.ofList _ = first at hpieces
  have habs := absolute_iff hpieces
  rw [parts, hpieces]
  dsimp only
  rw [filterMap_part?]
  by_cases hempty : first = ""
  · subst hempty
    have hsolid : solid ("" :: rest) = solid rest := rfl
    rw [hsolid]
    cases rest with
    | nil =>
      rw [Bool.eq_false_iff.mpr (fun h => (habs.mp h).2 rfl)]
      exact ⟨[], .none, rfl⟩
    | cons k ks =>
      rw [habs.mpr ⟨rfl, by simp⟩]
      exact ⟨[.root], .root, rfl⟩
  · have hfirst : first.isEmpty = false := by
      rw [Bool.eq_false_iff]
      exact fun h => hempty (String.isEmpty_iff.mp h)
    rw [Bool.eq_false_iff.mpr fun h => hempty (habs.mp h).1, hfirst, if_neg Bool.false_ne_true]
    by_cases hdot : first = "."
    · subst hdot
      exact ⟨[.here], .here, rfl⟩
    · rw [if_neg (by simpa using hdot)]
      have hsolid : solid (first :: rest) = first :: solid rest :=
        List.filter_cons_of_pos (by simpa using ⟨hdot, hempty⟩)
      have hpart : part? first = some (partOf first) := by
        rw [part?, partOf, hfirst, if_neg (by simpa using hdot)]
        split <;> rfl
      refine ⟨[], .none, ?_⟩
      rw [hpart, hsolid, List.nil_append, List.map_cons]
      rfl

/-- The pieces of the shortest path with given parts are the texts of the parts. -/
theorem pieces_ofParts :
    ∀ ps : List PathPart, ps ≠ [] → ps ≠ [.root] → .root ∉ ps.tail →
      (∀ p ∈ ps, '/' ∉ (partText p).toList) → pieces [] (ofParts ps).toList = ps.map partText
  | [], hne, _, _, _ => absurd rfl hne
  | [p], _, hroot, _, htext => by
    have hof : ofParts [p] = partText p := by
      cases p with
      | root => exact absurd rfl hroot
      | here => rfl
      | up => rfl
      | name s => rfl
    rw [hof, pieces_toList (htext p List.mem_cons_self)]
    rfl
  | p :: q :: ps, _, _, htail, htext => by
    have hslash : "/".toList = ['/'] := rfl
    have hof : ofParts (p :: q :: ps) = partText p ++ "/" ++ ofParts (q :: ps) := by
      cases p <;> rfl
    have ih := pieces_ofParts (q :: ps) (by simp)
      (fun h => htail (h ▸ List.mem_cons_self)) (fun h => htail (List.mem_cons_of_mem q h))
      (fun p' hp' => htext p' (List.mem_cons_of_mem p hp'))
    rw [hof, String.toList_append, String.toList_append, hslash, List.append_assoc,
      List.singleton_append, pieces_append_slash, pieces_toList (htext p List.mem_cons_self), ih]
    rfl

theorem map_partText (ks : List String) : (ks.map partOf).map partText = ks := by
  rw [List.map_map]
  exact (List.map_congr_left fun k _ => partText_partOf k).trans (List.map_id _)

/-- The parts of a path are pieces of it. -/
theorem map_partText_parts_sublist (path : String) :
    List.Sublist ((parts path).map partText) (pieces [] path.toList) := by
  have hrest : ∀ rest : List String, List.Sublist ((rest.filterMap part?).map partText) rest := by
    intro rest
    rw [filterMap_part?, map_partText]
    exact List.filter_sublist
  rw [parts]
  cases hpieces : pieces [] path.toList with
  | nil => exact List.Sublist.refl _
  | cons first rest =>
    dsimp only
    rw [List.map_append]
    show List.Sublist _ ([first] ++ rest)
    refine List.Sublist.append ?_ (hrest rest)
    by_cases hempty : first = ""
    · subst hempty
      cases rest with
      | nil => exact List.nil_sublist _
      | cons k ks => exact List.Sublist.refl _
    · rw [if_neg fun h => hempty (String.isEmpty_iff.mp h)]
      by_cases hdot : first = "."
      · subst hdot
        exact List.Sublist.refl _
      · rw [if_neg (by simpa using hdot)]
        exact hrest [first]

theorem root_notMem_map (ks : List String) : .root ∉ ks.map partOf := by
  intro h
  obtain ⟨k, -, hk⟩ := List.mem_map.mp h
  exact partOf_ne_root k hk

theorem Lead.solid_map {absolute : Bool} {lead : List PathPart} (hlead : Lead absolute lead)
    (ks : List String) : solid ((lead ++ (solid ks).map partOf).map partText) = solid ks := by
  rw [List.map_append, map_partText, solid_append, solid_solid]
  cases hlead with
  | root => rfl
  | here => rfl
  | none => rfl

theorem Lead.notMem_slash {absolute : Bool} {lead : List PathPart} (hlead : Lead absolute lead)
    {ks : List String} (hks : ∀ k ∈ ks, '/' ∉ k.toList) :
    ∀ p ∈ lead ++ (solid ks).map partOf, '/' ∉ (partText p).toList := by
  intro p hp
  rcases List.mem_append.mp hp with hp | hp
  · cases hlead with
    | root => rw [List.mem_singleton.mp hp]; simp [partText]
    | here => rw [List.mem_singleton.mp hp]; simp [partText]
    | none => exact absurd hp (by simp)
  · obtain ⟨k, hk, rfl⟩ := List.mem_map.mp hp
    rw [partText_partOf]
    exact hks k (List.mem_filter.mp hk).1

/-- The shortest path with given parts starts as they do and leads through the same names. -/
theorem route_ofParts {absolute : Bool} {lead : List PathPart} (hlead : Lead absolute lead)
    {ks : List String} (hks : ∀ k ∈ ks, '/' ∉ k.toList) :
    (route (ofParts (lead ++ (solid ks).map partOf))).absolute = absolute ∧
      solid (route (ofParts (lead ++ (solid ks).map partOf))).names = solid ks := by
  have htext := hlead.notMem_slash hks
  have hroot := root_notMem_map (solid ks)
  have hsolid := hlead.solid_map ks
  -- The empty path and the root alone are written in a way of their own.
  have hempty : pieces [] (ofParts []).toList = [""] := rfl
  have hslash : pieces [] (ofParts [.root]).toList = ["", ""] := rfl
  cases hlead with
  | root =>
    rw [List.singleton_append] at htext hsolid ⊢
    by_cases hone : (solid ks).map partOf = []
    · rw [List.map_eq_nil_iff] at hone
      rw [hone]
      exact ⟨(absolute_iff hslash).mpr ⟨rfl, by simp⟩, by rw [solid_names]; rfl⟩
    · have hpieces := pieces_ofParts _ (by simp)
        (fun h => hone (List.cons.inj h).2) hroot htext
      refine ⟨(absolute_iff hpieces).mpr ⟨rfl, fun h => hone (List.map_eq_nil_iff.mp h)⟩, ?_⟩
      rw [solid_names, hpieces, hsolid]
  | here =>
    rw [List.singleton_append] at htext hsolid ⊢
    have hpieces := pieces_ofParts (.here :: (solid ks).map partOf) (by simp) (by simp) hroot htext
    refine ⟨Bool.eq_false_iff.mpr fun h => absurd ((absolute_iff hpieces).mp h).1 (by decide), ?_⟩
    rw [solid_names, hpieces, hsolid]
  | none =>
    rw [List.nil_append] at htext hsolid ⊢
    cases hks' : solid ks with
    | nil =>
      exact ⟨Bool.eq_false_iff.mpr fun h => ((absolute_iff hempty).mp h).2 rfl,
        by rw [solid_names]; rfl⟩
    | cons k ls =>
      have hk : k ≠ "" := by
        have hmem : k ∈ solid ks := hks' ▸ List.mem_cons_self
        have hsolid := (List.mem_filter.mp hmem).2
        rw [Bool.and_eq_true] at hsolid
        exact bne_iff_ne.mp hsolid.2
      rw [hks'] at hroot htext hsolid
      have hpieces := pieces_ofParts ((k :: ls).map partOf) (by simp)
        (fun h => hroot (by rw [h]; exact List.mem_cons_self))
        (fun h => hroot (List.mem_of_mem_tail h)) htext
      refine ⟨Bool.eq_false_iff.mpr fun h => hk ?_, by rw [solid_names, hpieces, hsolid]⟩
      rw [← partText_partOf k]
      exact ((absolute_iff hpieces).mp h).1

theorem eq_ofParts_of_parent? {path up : String} (h : parent? path = some up) :
    up = ofParts (parts path).dropLast ∧ parts path ≠ [] ∧ parts path ≠ [.root] := by
  rw [parent?] at h
  split at h
  · exact absurd h (by simp)
  · exact absurd h (by simp)
  · rename_i hnil hroot
    exact ⟨(Option.some.inj h).symm, hnil, hroot⟩

/-- The path above leads through all names but the last, unless it is empty. -/
theorem route_parent? {path up : String} (h : parent? path = some up) :
    up = "" ∨ ∃ ks k, solid (route path).names = ks ++ [k] ∧
      (route up).absolute = (route path).absolute ∧ solid (route up).names = ks := by
  obtain ⟨hup, hnil, hroot⟩ := eq_ofParts_of_parent? h
  obtain ⟨lead, hlead, hparts⟩ := exists_parts path
  rcases List.eq_nil_or_concat (solid (route path).names) with hnone | ⟨ks, k, hconcat⟩
  · -- Of a path of dots only the first dot is a part.
    rw [hnone, List.map_nil, List.append_nil] at hparts
    generalize (route path).absolute = absolute at hlead
    cases hlead with
    | root => exact absurd hparts hroot
    | here =>
      rw [hparts] at hup
      exact Or.inl hup
    | none => exact absurd hparts hnil
  · rw [List.concat_eq_append] at hconcat
    have hmem : ∀ s ∈ ks, s ∈ solid (route path).names := fun s hs =>
      hconcat ▸ List.mem_append_left [k] hs
    have hks : solid ks = ks :=
      List.filter_eq_self.mpr fun s hs => (List.mem_filter.mp (hmem s hs)).2
    have hroute := route_ofParts hlead fun s (hs : s ∈ ks) =>
      notMem_of_mem_pieces path.toList [] (by simp)
        (List.mem_filter.mp (List.mem_filter.mp (hmem s hs)).1).1
    rw [hks] at hroute
    rw [hparts, hconcat, List.map_append, ← List.append_assoc, List.map_singleton,
      List.dropLast_concat] at hup
    rw [hup]
    exact Or.inr ⟨ks, k, hconcat, hroute⟩

/-- The path above has some of the characters of a path, unless it is the root. -/
theorem parent_sublist {path up : String} (h : parent? path = some up) (hroot : up ≠ "/") :
    List.Sublist up.toList path.toList := by
  obtain ⟨lead, hlead, hparts⟩ := exists_parts path
  obtain ⟨hup, -⟩ := eq_ofParts_of_parent? h
  have htext : ∀ p ∈ parts path, '/' ∉ (partText p).toList := by
    rw [hparts]
    exact hlead.notMem_slash fun k hk => notMem_of_mem_pieces path.toList [] (by simp)
      (List.mem_filter.mp hk).1
  have hsub : List.Sublist (parts path).dropLast (parts path) := List.dropLast_sublist _
  have htail : PathPart.root ∉ (parts path).dropLast.tail := by
    intro hmem
    have hmem' : PathPart.root ∈ (parts path).tail := hsub.tail.subset hmem
    rw [hparts] at hmem'
    generalize (route path).absolute = absolute at hlead
    cases hlead with
    | root => exact root_notMem_map _ hmem'
    | here => exact root_notMem_map _ hmem'
    | none => exact root_notMem_map _ (List.mem_of_mem_tail hmem')
  by_cases hnil : (parts path).dropLast = []
  · rw [hup, hnil]
    exact List.nil_sublist _
  · refine toList_sublist ?_
    have hne : (parts path).dropLast ≠ [.root] := by
      intro hone
      rw [hone] at hup
      exact hroot hup
    rw [hup, pieces_ofParts _ hnil hne htail fun p hp => htext p (hsub.subset hp)]
    exact (hsub.map _).trans (map_partText_parts_sublist path)

/-! ## Joining -/

theorem toList_slash : "/".toList = ['/'] := rfl

theorem not_startsWith_slash {s : String} (h : '/' ∉ s.toList) : s.startsWith "/" = false := by
  refine Bool.eq_false_iff.mpr fun hs => ?_
  obtain ⟨t, ht⟩ := startsWith_slash_iff.mp hs
  exact h (ht ▸ List.mem_cons_self)

/-- A text that a name ends does not end with a slash. -/
theorem not_endsWith_slash {s t name : String} (hs : s = t ++ name) (hne : name ≠ "")
    (hname : '/' ∉ name.toList) : s.endsWith "/" = false := by
  refine Bool.eq_false_iff.mpr fun h => ?_
  obtain ⟨u, hu⟩ := endsWith_slash_iff.mp h
  have hlist : name.toList ≠ [] := fun h => hne (String.toList_eq_nil_iff.mp h)
  have hlast := congrArg List.getLast? hu
  rw [hs, String.toList_append, List.getLast?_append, List.getLast?_eq_some_getLast hlist,
    List.getLast?_append, List.getLast?_singleton, Option.some_or, Option.some_or,
    Option.some.injEq] at hlast
  exact hname (hlast ▸ List.getLast_mem hlist)

theorem filter_nonempty_singleton {name : String} (hne : name ≠ "") :
    [name].filter (fun s => !s.isEmpty) = [name] := by
  refine List.filter_cons_of_pos ?_
  rw [Bool.not_eq_true', Bool.eq_false_iff]
  exact fun h => hne (String.isEmpty_iff.mp h)

/-- The names of a text that goes on with a name after a slash. -/
theorem names_append_slash (s name : String) (hne : name ≠ "") (hname : '/' ∉ name.toList) :
    (route (s ++ "/" ++ name)).names = (route s).names ++ [name] := by
  rw [route, route, String.toList_append, String.toList_append, toList_slash, List.append_assoc,
    List.singleton_append, pieces_append_slash, pieces_toList hname, List.filter_append,
    filter_nonempty_singleton hne]

/-- A path continued by a name leads on by that name. -/
theorem route_join (dir name : String) (hne : name ≠ "") (hname : '/' ∉ name.toList) :
    (route (join dir name)).absolute = (route dir).absolute ∧
      (route (join dir name)).names = (route dir).names ++ [name] ∧
      (route (join dir name)).slash = false := by
  rw [join, not_startsWith_slash hname, Bool.false_or]
  by_cases hdir : dir = ""
  · subst hdir
    rw [if_pos (by decide)]
    have habs : ("" : String).startsWith "/" = false := not_startsWith_slash (by simp)
    refine ⟨(not_startsWith_slash hname).trans habs.symm, ?_,
      not_endsWith_slash String.empty_append.symm hne hname⟩
    rw [route, pieces_toList hname]
    exact filter_nonempty_singleton hne
  rw [if_neg fun h => hdir (String.isEmpty_iff.mp h)]
  have hstart : ∀ s : String, (route (dir ++ s)).absolute = (route dir).absolute := by
    intro s
    rw [Bool.eq_iff_iff, route, route, startsWith_slash_iff, startsWith_slash_iff,
      String.toList_append]
    cases hlist : dir.toList with
    | nil => exact absurd (String.toList_eq_nil_iff.mp hlist) hdir
    | cons c t =>
      rw [List.cons_append]
      constructor
      · rintro ⟨u, hu⟩
        exact ⟨t, by rw [(List.cons.inj hu).1]⟩
      · rintro ⟨u, hu⟩
        exact ⟨t ++ s.toList, by rw [(List.cons.inj hu).1]⟩
  cases hend : dir.endsWith "/" with
  | false =>
    rw [if_neg Bool.false_ne_true]
    refine ⟨?_, names_append_slash dir name hne hname, not_endsWith_slash rfl hne hname⟩
    rw [String.append_assoc, hstart]
  | true =>
    rw [if_pos rfl]
    refine ⟨hstart name, ?_, not_endsWith_slash rfl hne hname⟩
    -- Without its last slash the directory has the same names.
    obtain ⟨t, ht⟩ := endsWith_slash_iff.mp hend
    have hcut : dir = String.ofList t ++ "/" := by
      rw [← String.toList_inj, ht, String.toList_append, String.toList_ofList, toList_slash]
    have hnames : (route (String.ofList t ++ "/")).names = (route (String.ofList t)).names := by
      rw [route, route, String.toList_append, toList_slash, pieces_append_slash,
        List.filter_append]
      exact List.append_nil _
    rw [hcut, names_append_slash _ _ hne hname, hnames]

end Path

namespace Workspace

open SinkAudit.Path

variable {path k : String}

theorem notMem_of_mem_names {s : String} (h : s ∈ (route path).names) : '/' ∉ s.toList :=
  notMem_of_mem_pieces path.toList [] (by simp) (List.mem_filter.mp h).1

theorem Named.notMem_slash (h : Named path k) : '/' ∉ k.toList :=
  notMem_of_mem_names (List.mem_of_getLast? h.last)

theorem Named.solid_names_eq (h : Named path k) :
    solid (route path).names = solid (route path).names.dropLast ++ [k] := by
  have hk : solid [k] = [k] :=
    List.filter_cons_of_pos (by simpa using ⟨h.proper.ne_dot, h.proper.ne_empty⟩)
  have hnames := congrArg solid h.names_eq
  rw [solid_append, hk] at hnames
  exact hnames

theorem Named.partOf_eq (h : Named path k) : partOf k = .name k := by
  rw [partOf]
  exact if_neg (by simpa using h.proper.ne_up)

/-- The parts of a path that ends with a name. -/
theorem Named.exists_parts (h : Named path k) :
    ∃ lead, Lead (route path).absolute lead ∧
      parts path = lead ++ (solid (route path).names.dropLast).map partOf ++ [.name k] := by
  obtain ⟨lead, hlead, hparts⟩ := Path.exists_parts path
  refine ⟨lead, hlead, ?_⟩
  rw [hparts, h.solid_names_eq, List.map_append, List.append_assoc, List.map_singleton,
    h.partOf_eq]

/-- A path that ends with a name, whatever comes after it, has it as its file name. -/
theorem fileName?_of_getLast? (hlast : (route path).names.getLast? = some k) (hk : Proper k) :
    fileName? path = some k := by
  obtain ⟨init, hinit⟩ := List.getLast?_eq_some_iff.mp hlast
  obtain ⟨lead, -, hparts⟩ := Path.exists_parts path
  have hsolid : solid [k] = [k] :=
    List.filter_cons_of_pos (by simpa using ⟨hk.ne_dot, hk.ne_empty⟩)
  have hpart : partOf k = .name k := if_neg (by simpa using hk.ne_up)
  rw [fileName?, hparts, hinit, solid_append, hsolid, List.map_append, ← List.append_assoc,
    List.map_singleton, hpart, List.getLast?_concat]

theorem Named.fileName?_eq (h : Named path k) : fileName? path = some k :=
  fileName?_of_getLast? h.last h.proper

/-- There is no slash in a file name. -/
theorem notMem_of_fileName? (h : fileName? path = some k) : '/' ∉ k.toList := by
  obtain ⟨lead, hlead, hparts⟩ := Path.exists_parts path
  rw [fileName?] at h
  split at h
  · rename_i s hlast
    obtain rfl := Option.some.inj h
    have hmem := List.mem_of_getLast? hlast
    rw [hparts] at hmem
    exact hlead.notMem_slash (fun k hk => notMem_of_mem_names hk) _ hmem
  · exact absurd h (by simp)

/-- Where a path has no fault, neither has the path above, unless it is empty. -/
theorem pathFault?_parent (h : pathFault? path = none) :
    (parent? path).getD "" = "" ∨ pathFault? ((parent? path).getD "") = none := by
  cases hparent : parent? path with
  | none => exact Or.inl rfl
  | some up =>
    rw [Option.getD_some]
    by_cases hempty : up = ""
    · exact Or.inl hempty
    refine Or.inr ?_
    by_cases hroot : up = "/"
    · subst hroot
      decide
    have hsub := parent_sublist hparent hroot
    rw [pathFault?] at h ⊢
    split at h
    · exact absurd h (by simp)
    · rename_i hnul
      split at h
      · exact absurd h (by simp)
      · split at h
        · exact absurd h (by simp)
        · rename_i hlong
          have hsize := Text.utf8ByteSize_le_of_sublist hsub
          have hnul' : ¬up.toList.contains '\x00' = true := fun hmem =>
            hnul (List.contains_iff_mem.mpr (hsub.subset (List.contains_iff_mem.mp hmem)))
          rw [if_neg hnul', if_neg fun h => hempty (String.isEmpty_iff.mp h),
            if_neg (by omega)]

/-- The path above leads through the names before the last. -/
theorem Named.exists_parent (h : Named path k) :
    ∃ up, parent? path = some up ∧ (route up).absolute = (route path).absolute ∧
      solid (route up).names = solid (route path).names.dropLast := by
  obtain ⟨lead, hlead, hparts⟩ := h.exists_parts
  generalize hinit : lead ++ (solid (route path).names.dropLast).map partOf = init at hparts
  refine ⟨ofParts init, ?_, ?_⟩
  · have hup : parent? path = some (ofParts (init ++ [PathPart.name k]).dropLast) := by
      rw [parent?, hparts]
      split
      · exact absurd ‹_› (by simp)
      · rename_i hroot
        have hmem : PathPart.name k ∈ [PathPart.root] :=
          hroot ▸ List.mem_append_right init List.mem_cons_self
        exact absurd (List.mem_singleton.mp hmem) (by simp)
      · rfl
    rw [hup, List.dropLast_concat]
  · rw [← hinit]
    exact route_ofParts hlead fun s hs => notMem_of_mem_names ((List.dropLast_sublist _).subset hs)

/-- A path with another file name ends with that name, whatever it ended with before. -/
theorem named_withFileName {name : String} (hname : '/' ∉ name.toList) (hproper : Proper name)
    (hfault : pathFault? (withFileName path name) = none) : Named (withFileName path name) name := by
  obtain ⟨dir, hdir⟩ : ∃ dir, withFileName path name = join dir name := by
    rw [withFileName]
    split
    · exact ⟨_, rfl⟩
    · split
      · refine ⟨"", ?_⟩
        rw [join, not_startsWith_slash hname]
        rfl
      · exact ⟨_, rfl⟩
  obtain ⟨-, hnames, hslash⟩ := route_join dir name hproper.ne_empty hname
  rw [hdir] at hfault ⊢
  refine ⟨hfault, hslash, ?_, hproper⟩
  rw [hnames, List.getLast?_concat]

/-- A path with another file name stands in the same directory. -/
theorem Named.sibling (h : Named path k) {name : String} (hname : '/' ∉ name.toList)
    (hproper : Proper name) (hfault : pathFault? (withFileName path name) = none) :
    Named (withFileName path name) name ∧
      (route (withFileName path name)).absolute = (route path).absolute ∧
      solid (route (withFileName path name)).names.dropLast =
        solid (route path).names.dropLast := by
  obtain ⟨up, hup, habs, hsolid⟩ := h.exists_parent
  have hwith : withFileName path name = join up name := by
    rw [Path.withFileName, h.fileName?_eq, hup]
  obtain ⟨habs', hnames, -⟩ := route_join up name hproper.ne_empty hname
  refine ⟨named_withFileName hname hproper hfault, ?_⟩
  rw [hwith, hnames, List.dropLast_concat, hsolid]
  exact ⟨habs'.trans habs, rfl⟩

/-- A path that is not empty and ends without a slash has a name. -/
theorem names_ne_nil (hne : path ≠ "") (hslash : (route path).slash = false) :
    (route path).names ≠ [] := by
  intro hnil
  have hempty : ∀ p ∈ pieces [] path.toList, p = "" := by
    intro p hp
    have hnot := List.filter_eq_nil_iff.mp hnil p hp
    simpa using hnot
  -- All that is left is slashes.
  have hall : ∀ c ∈ path.toList, c = '/' := by
    intro c hc
    have hmem : c ∈ (pieces [] path.toList).flatMap fun p => '/' :: p.toList := by
      rw [flatMap_pieces]
      exact List.mem_cons_of_mem _ hc
    obtain ⟨p, hp, hcp⟩ := List.mem_flatMap.mp hmem
    rw [hempty p hp] at hcp
    exact List.mem_singleton.mp hcp
  obtain ⟨c, t, ht⟩ : ∃ c t, path.toList = t ++ [c] := by
    rcases List.eq_nil_or_concat path.toList with h | ⟨t, c, h⟩
    · exact absurd (String.toList_eq_nil_iff.mp h) hne
    · exact ⟨c, t, by rw [h, List.concat_eq_append]⟩
  have hc := hall c (by rw [ht]; exact List.mem_append_right _ List.mem_cons_self)
  subst hc
  have hends : (route path).slash = true := endsWith_slash_iff.mpr ⟨t, ht⟩
  rw [hslash] at hends
  exact absurd hends (by simp)

theorem ne_empty_of_pathFault? (h : pathFault? path = none) : path ≠ "" := by
  rintro rfl
  exact absurd h (by decide)

/-- A path that can lead anywhere has steps. -/
theorem steps_ne_nil (h : pathFault? path = none) : (route path).steps ≠ [] := by
  rw [Route.steps]
  cases hslash : (route path).slash with
  | true => simp
  | false => exact names_ne_nil (ne_empty_of_pathFault? h) hslash

end Workspace
end SinkAudit
