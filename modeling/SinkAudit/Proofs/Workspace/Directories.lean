import SinkAudit.Proofs.Workspace.Files
import SinkAudit.Proofs.Workspace.PathText

/-!
# Making directories

* `isDir_iff`: a path leads to a directory when its names do.
* `Grows`: one workspace has the files and links of another, and further directories.
* `createDirs_ok`: making a directory with all above it grows the workspace to one in which it is
  there; `createDirs_error`: where that fails, it is not there; `createDirs_of_isDir`: where it is there
  already, nothing changes.
* `StandsIn.createDirs_eq`: the same for the directory that a path stands in.
-/

namespace SinkAudit
namespace Workspace

variable {w w' : Workspace} {path k : String} {d : Place}

/-! ## Being a directory -/

theorem solid_steps (r : Route) : solid r.steps = solid r.names := by
  rw [Route.steps]
  cases r.slash with
  | false => rfl
  | true =>
    rw [if_pos rfl, solid_append]
    exact List.append_nil _

theorem isDir_iff :
    w.isDir path = true ↔
      pathFault? path = none ∧ ∃ p, w.DirAt (route path).absolute (route path).names p := by
  rw [isDir, node, resolve]
  cases hfault : pathFault? path with
  | some e => exact iff_of_false (by simp) (by simp)
  | none =>
    have hsteps : ∀ p, w.DirAt (route path).absolute (route path).names p ↔
        w.DirAt (route path).absolute (route path).steps p :=
      fun p => dirAt_congr (solid_steps _).symm
    simp only [hsteps, true_and]
    simp only [DirAt, EndsIn]
    cases w.walkRoute .enter (route path).absolute (route path).steps with
    | error e => exact iff_of_false (by simp) (by simp)
    | ok target =>
      cases target with
      | missing p s => exact iff_of_false (by simp) (by simp)
      | found p n =>
        cases n with
        | file i => exact iff_of_false (by simp) (by simp)
        | link s => exact iff_of_false (by simp) (by simp)
        | dir es => exact iff_of_true rfl ⟨p, es, rfl⟩

/-! ## Growing -/

/-- The files and links of a workspace stay, and directories may be added. -/
structure Grows (w w' : Workspace) : Prop where
  home : w'.home = w.home
  contents : w'.contents = w.contents
  alike : ∀ p, Node.Alike (w.nodeAt? p) (w'.nodeAt? p) ∨
    (w.nodeAt? p = none ∧ ∃ es, w'.nodeAt? p = some (.dir es))

theorem Grows.refl (w : Workspace) : Grows w w :=
  ⟨rfl, rfl, fun _ => Or.inl (Node.Alike.refl _)⟩

theorem Grows.trans {w'' : Workspace} (h : Grows w w') (h' : Grows w' w'') : Grows w w'' := by
  refine ⟨h'.home.trans h.home, h'.contents.trans h.contents, fun p => ?_⟩
  rcases h.alike p with ha | ⟨hnone, es, hes⟩
  · rcases h'.alike p with ha' | ⟨hnone, hdir⟩
    · exact Or.inl (ha.trans ha')
    · refine Or.inr ⟨?_, hdir⟩
      rcases ha with he | ⟨-, fs, -, hfs⟩
      · rw [he, hnone]
      · rw [hnone] at hfs
        exact absurd hfs (by simp)
  · refine Or.inr ⟨hnone, ?_⟩
    rcases h'.alike p with ha' | ⟨hnone', -⟩
    · rcases ha' with he | ⟨-, fs, -, hfs⟩
      · exact ⟨es, he ▸ hes⟩
      · exact ⟨fs, hfs⟩
    · rw [hes] at hnone'
      exact absurd hnone' (by simp)

theorem Grows.nodeAt?_file_iff (h : Grows w w') {p : Place} {i : Nat} :
    w'.nodeAt? p = some (.file i) ↔ w.nodeAt? p = some (.file i) := by
  rcases h.alike p with (he | ⟨es, fs, hes, hfs⟩) | ⟨hnone, es, hes⟩
  · rw [he]
  · rw [hes, hfs]
    exact iff_of_false (by simp) (by simp)
  · rw [hnone, hes]
    exact iff_of_false (by simp) (by simp)

theorem Grows.keeps (h : Grows w w') : Keeps w w' := by
  refine ⟨h.home, fun p es hp => ?_, fun p t hp => ?_⟩
  · rcases h.alike p with (he | ⟨-, fs, -, hfs⟩) | ⟨hnone, -⟩
    · exact ⟨es, he ▸ hp⟩
    · exact ⟨fs, hfs⟩
    · rw [hp] at hnone
      exact absurd hnone (by simp)
  · rcases h.alike p with (he | ⟨es, -, hes, -⟩) | ⟨hnone, -⟩
    · exact he ▸ hp
    · rw [hp] at hes
      exact absurd hes (by simp)
    · rw [hp] at hnone
      exact absurd hnone (by simp)

theorem Grows.wellFormed (h : Grows w w') (hw : w.WellFormed) : w'.WellFormed := by
  refine ⟨fun p i hi => ?_, fun p q i hp hq => ?_⟩
  · rw [h.contents]
    exact hw.bound p i (h.nodeAt?_file_iff.mp hi)
  · exact hw.distinct p q i (h.nodeAt?_file_iff.mp hp) (h.nodeAt?_file_iff.mp hq)

theorem grows_setEntry {es : List (String × Node)} (hd : w.nodeAt? d = some (.dir es))
    (hk : w.nodeAt? (k :: d) = none) : Grows w (w.setEntry d k (.dir [])) := by
  have hbare : Node.Bare (w.nodeAt? (k :: d)) := hk ▸ Node.bare_none
  have hset := changesAt_setEntry hd hbare Node.bare_dir_nil
  refine ⟨hset.home, rfl, fun p => ?_⟩
  by_cases hp : p = k :: d
  · subst hp
    exact Or.inr ⟨hk, [], nodeAt?_setEntry_self hd k _⟩
  · exact Or.inl (hset.alike p hp)

/-! ## One directory -/

/-- What making a directory needs, and what it leaves. -/
theorem createDir_eq_ok (h : w.createDir path = .ok w') :
    ∃ d k es, pathFault? path = none ∧ (route path).names = (route path).names.dropLast ++ [k] ∧
      Proper k ∧ k.utf8ByteSize ≤ maxName ∧
      w.DirAt (route path).absolute (route path).names.dropLast d ∧
      w.nodeAt? d = some (.dir es) ∧ w.nodeAt? (k :: d) = none ∧
      w' = w.setEntry d k (.dir []) := by
  rw [createDir] at h
  cases hparent : w.resolveParent path with
  | error e => rw [hparent] at h; exact absurd h (by simp)
  | ok r =>
    obtain ⟨d, last⟩ := r
    rw [hparent] at h
    cases last with
    | special => exact absurd h (by simp)
    | name k =>
      obtain ⟨hfault, hlast, hproper, hdir⟩ := resolveParent_eq_name hparent
      dsimp only at h
      by_cases hk : maxName < k.utf8ByteSize
      · rw [if_pos hk] at h
        exact absurd h (by simp)
      rw [if_neg hk] at h
      cases hnode : w.nodeAt? d with
      | none => rw [hnode] at h; exact absurd h (by simp)
      | some n =>
        rw [hnode] at h
        cases n with
        | file i => exact absurd h (by simp)
        | link s => exact absurd h (by simp)
        | dir es =>
          dsimp only at h
          cases hc : Node.child? k es with
          | some m => rw [hc] at h; exact absurd h (by simp)
          | none =>
            rw [hc] at h
            refine ⟨d, k, es, hfault, hlast, hproper, Nat.not_lt.mp hk, hdir, hnode, ?_, ?_⟩
            · rw [nodeAt?_cons hnode, hc]
            · simpa using h.symm

/-- A directory that is made is there. -/
theorem createDir_grows (h : w.createDir path = .ok w') : Grows w w' ∧ w'.isDir path = true := by
  obtain ⟨d, k, es, hfault, hnames, hk, hshort, hdir, hes, hnone, rfl⟩ := createDir_eq_ok h
  have hgrows := grows_setEntry hes hnone
  refine ⟨hgrows, isDir_iff.mpr ⟨hfault, k :: d, ?_⟩⟩
  obtain ⟨fs, hfs, hlast⟩ := (hdir.keeps hgrows.keeps).walkRoute_snoc hk
  have hself := nodeAt?_setEntry_self hes k (.dir [])
  have hchild : Node.child? k fs = some (.dir []) := by rw [← nodeAt?_cons hfs, hself]
  refine ⟨[], ?_⟩
  rw [hnames, hlast .enter (Or.inr fun _ s => by rw [hchild]; simp), lastTarget_eq hfs hshort,
    entryTarget, hself]

/-- Where a path leads to a directory, making it fails, and not for want of one above. -/
theorem createDir_of_isDir (h : w.isDir path = true) :
    ∃ e, w.createDir path = .error e ∧ e ≠ .notFound := by
  obtain ⟨hfault, p, hp⟩ := isDir_iff.mp h
  cases hcreate : w.createDir path with
  | ok w' =>
    obtain ⟨d, k, es, -, hnames, hk, hshort, hdir, hes, hnone, -⟩ := createDir_eq_ok hcreate
    obtain ⟨fs, hfs, hlast⟩ := hdir.walkRoute_snoc hk
    have hchild : Node.child? k fs = none := by rw [← nodeAt?_cons hfs, hnone]
    obtain ⟨gs, hgs⟩ := hp
    rw [hnames, hlast .enter (Or.inr fun _ s => by rw [hchild]; simp), lastTarget_eq hfs hshort,
      entryTarget, hnone] at hgs
    exact absurd hgs (by simp)
  | error e =>
    refine ⟨e, rfl, ?_⟩
    rintro rfl
    have hsplit : (route path).names =
        (route path).names.dropLast ++ (route path).names.getLast?.toList := by
      cases hlast : (route path).names.getLast? with
      | none => rw [List.getLast?_eq_none_iff.mp hlast]; rfl
      | some k =>
        obtain ⟨ks, hks⟩ := List.getLast?_eq_some_iff.mp hlast
        rw [hks, List.dropLast_concat]
        rfl
    rw [hsplit] at hp
    obtain ⟨p', hp'⟩ := exists_dirAt_of_append hp
    obtain ⟨es, hes⟩ := dirAt_snoc_dot.mpr hp'
    have hparent : ∃ last, w.resolveParent path = .ok (p', last) := by
      rw [resolveParent, hfault]
      dsimp only
      rw [hes]
      cases (route path).names.getLast? with
      | none => exact ⟨_, rfl⟩
      | some k => exact ⟨_, rfl⟩
    obtain ⟨last, hlast⟩ := hparent
    rw [createDir, hlast] at hcreate
    cases last with
    | special => exact absurd hcreate (by simp)
    | name k =>
      dsimp only at hcreate
      split at hcreate
      · exact absurd hcreate (by simp)
      · split at hcreate
        · split at hcreate
          · exact absurd hcreate (by simp)
          · exact absurd hcreate (by simp)
        · exact absurd hcreate (by simp)

/-! ## A directory and those above it -/

theorem createDirsFrom_ok :
    ∀ (fuel : Nat) (w : Workspace) (path : String) {w' : Workspace},
      createDirsFrom fuel w path = (.ok (), w') →
      Grows w w' ∧ (path = "" ∨ w'.isDir path = true)
  | 0, w, path, w', h => by
    rw [createDirsFrom] at h
    exact absurd h (by simp)
  | fuel + 1, w, path, w', h => by
    rw [createDirsFrom] at h
    by_cases hempty : path.isEmpty
    · rw [if_pos hempty] at h
      obtain rfl : w = w' := (Prod.mk.inj h).2
      exact ⟨Grows.refl w, Or.inl (String.isEmpty_iff.mp hempty)⟩
    rw [if_neg hempty] at h
    -- Whether it is made or was there before, the last try ends with the directory.
    have hlast : ∀ (w₁ : Workspace) (e : FileFault),
        (if w₁.isDir path then (Except.ok (), w₁) else (.error e, w₁)) = (.ok (), w') →
        w₁ = w' ∧ w'.isDir path = true := by
      intro w₁ e hif
      cases hdir : w₁.isDir path with
      | false => rw [hdir] at hif; exact absurd hif (by simp)
      | true =>
        rw [hdir] at hif
        obtain rfl : w₁ = w' := (Prod.mk.inj hif).2
        exact ⟨rfl, hdir⟩
    split at h
    · rename_i w₁ hcreate
      obtain rfl : w₁ = w' := (Prod.mk.inj h).2
      exact ⟨(createDir_grows hcreate).1, Or.inr (createDir_grows hcreate).2⟩
    · split at h
      · exact absurd h (by simp)
      · rename_i up _
        split at h
        · exact absurd h (by simp)
        · rename_i w₁ hup
          obtain ⟨hgrows, -⟩ := createDirsFrom_ok fuel w up hup
          split at h
          · rename_i w₂ hcreate
            obtain rfl : w₂ = w' := (Prod.mk.inj h).2
            obtain ⟨hgrows', hdir⟩ := createDir_grows hcreate
            exact ⟨hgrows.trans hgrows', Or.inr hdir⟩
          · obtain ⟨rfl, hdir⟩ := hlast _ _ h
            exact ⟨hgrows, Or.inr hdir⟩
    · obtain ⟨rfl, hdir⟩ := hlast _ _ h
      exact ⟨Grows.refl _, Or.inr hdir⟩

/-- Making a directory and those above it. -/
theorem createDirs_ok (h : w.createDirs path = (.ok (), w')) :
    Grows w w' ∧ (path = "" ∨ w'.isDir path = true) :=
  createDirsFrom_ok _ w path h

/-- Where a path leads to a directory, so does the path above, unless it is empty. -/
theorem isDir_parent {up : String} (h : w.isDir path = true) (hup : Path.parent? path = some up)
    (hne : up ≠ "") : w.isDir up = true := by
  obtain ⟨hfault, p, hp⟩ := isDir_iff.mp h
  have hfault' := pathFault?_parent hfault
  rw [hup, Option.getD_some] at hfault'
  rcases Path.route_parent? hup with hempty | ⟨ks, k, hsolid, habs, hnames⟩
  · exact absurd hempty hne
  · rw [dirAt_iff_solid, hsolid] at hp
    obtain ⟨p', hp'⟩ := exists_dirAt_of_append hp
    refine isDir_iff.mpr ⟨hfault'.resolve_left hne, p', ?_⟩
    rw [habs, dirAt_iff_solid, hnames]
    exact hp'

/-- Where making a directory with those above it fails, there is no such directory, though some above it
may have been made. -/
theorem createDirsFrom_error :
    ∀ (fuel : Nat) (w : Workspace) (path : String) {w' : Workspace} {e : FileFault},
      (solid (route path).names).length < fuel → createDirsFrom fuel w path = (.error e, w') →
      path ≠ "" ∧ w'.isDir path = false
  | 0, _, _, _, _, hfuel, _ => absurd hfuel (Nat.not_lt_zero _)
  | fuel + 1, w, path, w', e, hfuel, h => by
    rw [createDirsFrom] at h
    by_cases hempty : path.isEmpty
    · rw [if_pos hempty] at h
      cases h
    rw [if_neg hempty] at h
    refine ⟨fun heq => hempty (String.isEmpty_iff.mpr heq), ?_⟩
    have hlast : ∀ (w₁ : Workspace) (e₁ : FileFault),
        (if w₁.isDir path then (Except.ok (), w₁) else (.error e₁, w₁)) = (.error e, w') →
        w'.isDir path = false := by
      intro w₁ e₁ hif
      cases hdir : w₁.isDir path with
      | true => rw [hdir] at hif; cases hif
      | false =>
        rw [hdir] at hif
        cases hif
        exact hdir
    split at h
    case h_1 => cases h
    case h_3 => exact hlast _ _ h
    case h_2 hcreate =>
      have hnot : w.isDir path = false := by
        refine Bool.eq_false_iff.mpr fun hdir => ?_
        obtain ⟨e', he', hne⟩ := createDir_of_isDir hdir
        rw [hcreate] at he'
        cases he'
        exact hne rfl
      split at h
      case h_1 =>
        cases h
        exact hnot
      case h_2 up hup =>
      split at h
      case h_2 w₁ _ =>
        split at h
        · cases h
        · exact hlast _ _ h
      case h_1 e₁ w₁ hfrom =>
        cases h
        rcases Path.route_parent? hup with rfl | ⟨ks, k, hsolid, -, hnames⟩
        · -- Above is the working directory, and nothing is made there.
          cases fuel with
          | zero =>
            cases hfrom
            exact hnot
          | succ fuel =>
            rw [createDirsFrom, if_pos (String.isEmpty_iff.mpr rfl)] at hfrom
            cases hfrom
        · rw [hsolid, List.length_append, List.length_singleton] at hfuel
          obtain ⟨hne, hdir⟩ := createDirsFrom_error fuel w up (by rw [hnames]; omega) hfrom
          refine Bool.eq_false_iff.mpr fun hpath => ?_
          rw [isDir_parent hpath hup hne] at hdir
          cases hdir

theorem createDirs_error {e : FileFault} (h : w.createDirs path = (.error e, w')) :
    path ≠ "" ∧ w'.isDir path = false := by
  refine createDirsFrom_error _ w path ?_ h
  obtain ⟨lead, -, hparts⟩ := Path.exists_parts path
  rw [hparts, List.length_append, List.length_map]
  omega

theorem createDirs_of_isDir (h : path = "" ∨ w.isDir path = true) :
    w.createDirs path = (.ok (), w) := by
  rw [createDirs, createDirsFrom]
  by_cases hempty : path.isEmpty
  · rw [if_pos hempty]
  rw [if_neg hempty]
  rcases h with rfl | h
  · exact absurd rfl hempty
  obtain ⟨e, he, hne⟩ := createDir_of_isDir h
  rw [he]
  cases e with
  | notFound => exact absurd rfl hne
  | _ => exact if_pos h

/-! ## The directory that a path stands in -/

/-- The path above leads to a directory, if it is not empty, when the path stands in it. -/
theorem Named.dirAt_iff (h : Named path k) (d : Place) :
    w.DirAt (route ((Path.parent? path).getD "")).absolute
        (route ((Path.parent? path).getD "")).names d ↔
      w.DirAt (route path).absolute (route path).names.dropLast d := by
  obtain ⟨up, hup, habs, hsolid⟩ := h.exists_parent
  rw [hup, Option.getD_some, habs]
  exact dirAt_congr hsolid

/-- The directory that a path stands in is there, so that making it changes nothing. -/
theorem StandsIn.createDirs_eq (h : StandsIn w path k d)
    (hup : (Path.parent? path).getD "" = "" ∨
      pathFault? ((Path.parent? path).getD "") = none) :
    w.createDirs ((Path.parent? path).getD "") = (.ok (), w) := by
  refine createDirs_of_isDir (hup.imp_right fun hfault => isDir_iff.mpr ⟨hfault, d, ?_⟩)
  exact (h.toNamed.dirAt_iff d).mpr h.dir

/-! ## Names in the working directory -/

/-- A walk from the working directory starts there. -/
theorem exists_trail_home {es : List (String × Node)} (h : w.nodeAt? w.home = some (.dir es)) :
    ∃ t, trailFrom? [] w.root w.home.reverse = some t ∧ t.place = w.home ∧
      w.trailEnd t = .dir es := by
  obtain ⟨t, ht⟩ := exists_trailFrom? _ [] h
  obtain ⟨hvalid, hplace⟩ := valid_of_trailFrom? _ (Trail.valid_nil w) ht
  have hnode := nodeAt?_place hvalid
  have hhome : t.place = w.home := by
    rw [hplace, List.reverse_reverse]
    exact List.append_nil _
  rw [hhome, h, Option.some.injEq] at hnode
  exact ⟨t, ht, hhome, hnode.symm⟩

theorem dirAt_home {es : List (String × Node)} (h : w.nodeAt? w.home = some (.dir es)) :
    w.DirAt false [] w.home := by
  obtain ⟨t, ht, hhome, hend⟩ := exists_trail_home h
  rw [DirAt, walkRoute, if_neg Bool.false_ne_true, ht]
  exact endsIn_nil_iff.mpr ⟨hhome, es, hend⟩

/-- Dots and empty names lead nowhere else. -/
theorem walk_idle {f : Trail → List String → Except FileFault Target} {t : Trail}
    {es : List (String × Node)} (hend : w.trailEnd t = .dir es) :
    ∀ ks : List String, (∀ k ∈ ks, k = "." ∨ k = "") →
      w.walk .enter f t ks = .ok (.found t.place (.dir es))
  | [], _ => by rw [walk, hend]
  | k :: ks, h => by
    obtain ⟨hk, hks⟩ := List.forall_mem_cons.mp h
    rw [walk_cons w f t k (by simp), move_dot hend hk]
    exact walk_idle hend ks hks

/-- A relative path of dots leads to the working directory. -/
theorem node_of_idle {es : List (String × Node)} (h : w.nodeAt? w.home = some (.dir es))
    (hfault : pathFault? path = none) (habs : (route path).absolute = false)
    (hidle : ∀ k ∈ (route path).names, k = ".") : w.node path = .ok (w.home, .dir es) := by
  obtain ⟨t, ht, hhome, hend⟩ := exists_trail_home h
  have hsteps : ∀ k ∈ (route path).steps, k = "." ∨ k = "" := by
    intro k hk
    rw [Route.steps] at hk
    split at hk
    · rcases List.mem_append.mp hk with hk | hk
      · exact Or.inl (hidle k hk)
      · exact Or.inr (List.mem_singleton.mp hk)
    · exact Or.inl (hidle k hk)
  rw [node, resolve, hfault]
  dsimp only
  rw [walkRoute, habs, if_neg Bool.false_ne_true, ht]
  dsimp only
  rw [maxLinks, walkLinks, walk_idle hend _ hsteps, hhome]

/-- A name by itself stands in the working directory. -/
theorem standsIn_home {es : List (String × Node)} (h : w.nodeAt? w.home = some (.dir es))
    (hk : Proper k) (hslash : '/' ∉ k.toList) (hfault : pathFault? k = none) :
    StandsIn w k k w.home := by
  have hnames : (route k).names = [k] := by
    rw [route, Path.pieces_toList hslash]
    exact Path.filter_nonempty_singleton hk.ne_empty
  have habs : (route k).absolute = false := Path.not_startsWith_slash hslash
  refine ⟨⟨hfault, Path.not_endsWith_slash String.empty_append.symm hk.ne_empty hslash, ?_, hk⟩, ?_⟩
  · rw [hnames]
    rfl
  · rw [hnames, habs]
    exact dirAt_home h

end Workspace
end SinkAudit
