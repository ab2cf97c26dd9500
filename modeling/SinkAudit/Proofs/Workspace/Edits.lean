import SinkAudit.Proofs.Workspace.Directories

/-!
# Edits of a workspace

What a command does to a workspace is a sequence of edits: a directory is made, a file is opened and
given a content, or a name is moved in the place of another.  Each edit is named by the paths it is
made with.  Where those paths lead is decided in the workspace that the edit meets, which the edits
before it may have changed; so an edit touches places of *that* workspace.

* `Workspace.sight?`: what is seen at a place; this is what edits are judged by.
* `Target.Sound`: a path leads to what is there (`sound_of_resolve`), and one that leads to something
  when a file may be made leads to it anyway (`resolve_enter_of_create`).
* `Edit.Applies` and `Edit.Touches`: the workspace that an edit leaves, and the places it may change;
  `Edit.Applies.sight?_eq` says that it changes no others.
* `Edited`: a run of edits of a given kind, and `Edited.changesOnly`: what is seen at a place changes
  only by an edit on the way that touches the place.
-/

namespace SinkAudit

namespace Path

/-- One path is above another: it is the parent of the other, or above the parent. -/
inductive Above : String → String → Prop
  | parent {path up : String} (h : parent? path = some up) : Above up path
  | further {path up upper : String} (h : parent? path = some up) (habove : Above upper up) :
    Above upper path

end Path

/-- What is seen at a place: a file with its content, a link or a directory. -/
inductive Sight where
  | file (bytes : ByteArray)
  | link (target : String)
  | directory

namespace Node

theorem Alike.exists_dir {a b : Option Node} (h : Alike a b) {es : List (String × Node)}
    (ha : a = some (dir es)) : ∃ fs, b = some (dir fs) := by
  rcases h with rfl | ⟨-, fs, -, hb⟩
  · exact ⟨es, ha⟩
  · exact ⟨fs, hb⟩

end Node

namespace Workspace

/-! ## Sights -/

/-- What is seen at a place.  A number that stands for no content is no file. -/
def sight? (w : Workspace) (p : Place) : Option Sight :=
  match w.nodeAt? p with
  | none => none
  | some (.file i) => w.contents[i]?.map .file
  | some (.link target) => some (.link target)
  | some (.dir _) => some .directory

theorem sight?_of_nodeAt?_eq_none {w : Workspace} {p : Place} (h : w.nodeAt? p = none) :
    w.sight? p = none := by
  rw [sight?, h]

/-- The same is seen where the nodes are alike and a file has its content. -/
theorem sight?_eq_of_alike {w w' : Workspace} {p : Place}
    (h : Node.Alike (w.nodeAt? p) (w'.nodeAt? p))
    (hfile : ∀ i, w.nodeAt? p = some (.file i) → w'.contents[i]? = w.contents[i]?) :
    w'.sight? p = w.sight? p := by
  rcases h with h | ⟨es, fs, hes, hfs⟩
  · rw [sight?, sight?, ← h]
    cases hnode : w.nodeAt? p with
    | none => rfl
    | some n =>
      cases n with
      | file i => exact congrArg (Option.map Sight.file) (hfile i hnode)
      | link s => rfl
      | dir es => rfl
  · rw [sight?, sight?, hes, hfs]

/-! ## Where paths lead -/

/-- A target is as the workspace has it. -/
def Target.Sound (w : Workspace) : Target → Prop
  | .found p n => w.nodeAt? p = some n
  | .missing d k => ∃ es, w.nodeAt? d = some (.dir es) ∧ w.nodeAt? (k :: d) = none

section Leading

variable {w : Workspace} {q : Purpose} {path : String} {target : Target}
variable {f g : Trail → List String → Except FileFault Target}

/-- A walk ends at what is there, if walks that go on from links do. -/
theorem sound_of_walk
    (hf : ∀ t ks, Trail.Valid w t → f t ks = .ok target → target.Sound w) :
    ∀ (ks : List String) (t : Trail), t.Valid w → w.walk q f t ks = .ok target → target.Sound w
  | [], t, ht, h => by
    rw [walk] at h
    cases h
    exact nodeAt?_place ht
  | k :: ks, t, ht, h => by
    have ih := sound_of_walk hf ks
    rw [walk] at h
    split at h
    case h_2 => cases h
    case h_1 es hend =>
      have hplace := nodeAt?_place ht
      rw [hend] at hplace
      have hentry := nodeAt?_cons hplace k
      split at h
      · exact ih t ht h
      split at h
      · exact ih t.tail ht.tail h
      split at h
      · cases h
      split at h
      · cases h
      split at h
      case h_1 hchild =>
        split at h
        · cases h
          exact ⟨es, hplace, hentry.trans hchild⟩
        · cases h
      case h_2 s hchild =>
        split at h
        · cases h
          exact hentry.trans hchild
        · exact hf _ _ (ht.jump _) h
      case h_3 n _ hchild =>
        have hdown : Trail.Valid w ((k, n) :: t) := ⟨⟨es, hend, hchild⟩, ht⟩
        exact ih _ hdown h

theorem sound_of_walkLinks :
    ∀ (n : Nat) (t : Trail) (ks : List String), t.Valid w →
      w.walkLinks q n t ks = .ok target → target.Sound w
  | 0, t, ks, ht, h => sound_of_walk (fun _ _ _ h => by cases h) ks t ht h
  | n + 1, t, ks, ht, h => sound_of_walk (sound_of_walkLinks n) ks t ht h

/-- A path leads to what is there, or to a name that a directory does not have. -/
theorem sound_of_resolve (h : w.resolve q path = .ok target) : target.Sound w := by
  rw [resolve] at h
  split at h
  case h_1 => cases h
  case h_2 =>
    rw [walkRoute] at h
    split at h
    case h_2 => cases h
    case h_1 t ht =>
      exact sound_of_walkLinks maxLinks t _ (valid_of_trailFrom? _ (Trail.valid_nil w) ht).1 h

/-- Only a slash after the last name tells the two ways to follow a link apart, and it stops the
one that may make a file. -/
theorem walk_enter_of_create
    (hfg : ∀ t ks, f t ks = .ok target → g t ks = .ok target) :
    ∀ (ks : List String) (t : Trail),
      w.walk .create f t ks = .ok target → w.walk .enter g t ks = .ok target
  | [], t, h => h
  | k :: ks, t, h => by
    have ih := walk_enter_of_create hfg ks
    rw [walk] at h ⊢
    split at h
    case h_2 => cases h
    case h_1 es hend =>
      split at h
      case isTrue hdot =>
        rw [if_pos hdot]
        exact ih t h
      case isFalse hdot =>
      rw [if_neg hdot]
      split at h
      case isTrue hup =>
        rw [if_pos hup]
        exact ih t.tail h
      case isFalse hup =>
      rw [if_neg hup, if_neg (fun hcreate => by cases hcreate.1)]
      split at h
      case isTrue => cases h
      case isFalse =>
      split at h
      case isTrue => cases h
      case isFalse hlong =>
      rw [if_neg hlong]
      split at h
      case h_1 => exact h
      case h_2 s _ =>
        have hfollow : ∀ q, q ≠ Purpose.inspect → ¬(ks.isEmpty && decide (q = .inspect)) = true :=
          fun q hq => by simp [hq]
        rw [if_neg (hfollow _ (by simp))] at h ⊢
        exact hfg _ _ h
      case h_3 => exact ih _ h

theorem walkLinks_enter_of_create :
    ∀ (n : Nat) (t : Trail) (ks : List String),
      w.walkLinks .create n t ks = .ok target → w.walkLinks .enter n t ks = .ok target
  | 0, t, ks, h => walk_enter_of_create (fun _ _ h => h) ks t h
  | n + 1, t, ks, h => walk_enter_of_create (walkLinks_enter_of_create n) ks t h

/-- A path that leads somewhere when a file may be made leads there anyway. -/
theorem resolve_enter_of_create (h : w.resolve .create path = .ok target) :
    w.resolve .enter path = .ok target := by
  rw [resolve] at h ⊢
  split at h
  case h_1 => cases h
  case h_2 =>
    rw [walkRoute] at h ⊢
    split at h
    case h_2 => cases h
    case h_1 t ht => exact walkLinks_enter_of_create maxLinks t _ h

end Leading

/-- The file that a path leads to is opened, or a file is made where none is. -/
theorem openFile_eq_ok {w w' : Workspace} {path : String} {i : Nat}
    (h : w.openFile path = .ok (i, w')) :
    (w' = w ∧ ∃ p, w.resolve .create path = .ok (.found p (.file i))) ∨
      ∃ d k es, w.resolve .create path = .ok (.missing d k) ∧ w.nodeAt? d = some (.dir es) ∧
        w.nodeAt? (k :: d) = none ∧ i = w.contents.size ∧ w' = (w.newFile d k).2 := by
  rw [openFile] at h
  split at h
  case h_1 => cases h
  case h_2 p j hresolve =>
    cases h
    exact Or.inl ⟨rfl, p, hresolve⟩
  case h_3 => cases h
  case h_4 d k hresolve =>
    obtain ⟨es, hes, hnone⟩ := sound_of_resolve hresolve
    have hnew : w.newFile d k = (i, w') := Except.ok.inj h
    exact Or.inr ⟨d, k, es, hresolve, hes, hnone, (congrArg Prod.fst hnew).symm,
      (congrArg Prod.snd hnew).symm⟩

/-- What is written is the content of the file that is opened. -/
theorem write_eq_ok {w w' : Workspace} {path : String} {bytes : ByteArray}
    (h : w.write path bytes = .ok w') :
    ∃ i u, w.openFile path = .ok (i, u) ∧ w' = u.setContent i bytes := by
  rw [write] at h
  cases hopen : w.openFile path with
  | error e => rw [hopen] at h; cases h
  | ok r =>
    rw [hopen] at h
    cases h
    exact ⟨r.1, r.2, rfl, rfl⟩

/-- What a rename needs and what it leaves. -/
theorem rename_eq_ok {w w' : Workspace} {source target : String}
    (h : w.rename source target = .ok w') :
    ∃ d k e l n, w.resolveParent source = .ok (d, .name k) ∧
      w.resolveParent target = .ok (e, .name l) ∧ k.utf8ByteSize ≤ maxName ∧
      ((route source).slash = false ∧ (route target).slash = false) ∧
      w.nodeAt? (k :: d) = some n ∧ (∀ es, w.nodeAt? (l :: e) ≠ some (.dir es)) ∧
      w' = (w.modifyAt d (Node.erase k)).setEntry e l n := by
  rw [rename] at h
  split at h
  case h_1 => cases h
  case h_2 => cases h
  case h_3 => cases h
  case h_4 => cases h
  case h_5 d k e l hsource htarget =>
    split at h
    case isTrue => cases h
    case isFalse hk =>
    split at h
    case h_1 => cases h
    case h_2 n hn =>
    split at h
    case isTrue => cases h
    case isFalse =>
    split at h
    case isTrue => cases h
    case isFalse hslash =>
    rw [Bool.or_eq_true, not_or, Bool.not_eq_true, Bool.not_eq_true] at hslash
    split at h
    case h_1 => cases h
    case h_2 hdir =>
      exact ⟨d, k, e, l, n, hsource, htarget, Nat.le_of_not_lt hk, hslash, hn,
        fun es => hdir es, (Except.ok.inj h).symm⟩

/-- A path names a place: its last name, in the directory that the rest leads to.  A link at the
place is not followed. -/
def NamesAt (w : Workspace) (path : String) (p : Place) : Prop :=
  ∃ d k, w.resolveParent path = .ok (d, .name k) ∧ p = k :: d

end Workspace

/-! ## Edits -/

/-- A change that is made to a workspace, by the paths it is made with. -/
inductive Edit where
  /-- A directory is made. -/
  | directory (path : String)
  /-- A file is made, if there is none, and given a content. -/
  | file (path : String)
  /-- What the first path names is moved in the place of what the second names. -/
  | replace (source target : String)

namespace Edit

/-- The workspaces that an edit leaves.  What is moved is no directory. -/
inductive Applies : Edit → Workspace → Workspace → Prop
  | directory {path : String} {w w' : Workspace} (h : w.createDir path = .ok w') :
    Applies (.directory path) w w'
  | file {path : String} {w w' : Workspace} {i : Nat} (h : w.openFile path = .ok (i, w'))
    (bytes : ByteArray) : Applies (.file path) w (w'.setContent i bytes)
  | replace {source target : String} {w w' : Workspace} (h : w.rename source target = .ok w')
    (hsource : ∀ p es, w.NamesAt source p → w.nodeAt? p ≠ some (.dir es)) :
    Applies (.replace source target) w w'

/-- The places that an edit touches: that of a directory, where nothing was; those of the file that is
opened, which is the one that a link leads to; and those that are named when one thing is moved in the
place of another. -/
def Touches (w : Workspace) (p : Place) : Edit → Prop
  | .directory path => w.NamesAt path p ∧ w.sight? p = none
  | .file path => ∃ i w', w.openFile path = .ok (i, w') ∧ w'.nodeAt? p = some (.file i)
  | .replace source target => w.NamesAt source p ∨ w.NamesAt target p

variable {w w' : Workspace} {e : Edit} {p : Place}

/-- Making a directory changes what is seen at its place only. -/
theorem sight?_createDir {path : String} (h : w.createDir path = .ok w')
    (hp : ¬(directory path).Touches w p) : w'.sight? p = w.sight? p := by
  obtain ⟨d, k, es, hfault, hnames, hk, -, hdir, hes, hnone, rfl⟩ := Workspace.createDir_eq_ok h
  have hlast : (Workspace.route path).names.getLast? = some k := by
    rw [hnames, List.getLast?_concat]
  have hne : p ≠ k :: d := by
    rintro rfl
    exact hp ⟨⟨d, k, hdir.resolveParent_eq hfault hlast hk, rfl⟩,
      Workspace.sight?_of_nodeAt?_eq_none hnone⟩
  have hchange := Workspace.changesAt_setEntry hes (hnone ▸ Node.bare_none) Node.bare_dir_nil
  exact Workspace.sight?_eq_of_alike (hchange.alike p hne) fun _ _ => rfl

/-- Writing a file changes what is seen at the places of this file only. -/
theorem sight?_setContent {path : String} {i : Nat} (h : w.openFile path = .ok (i, w'))
    (bytes : ByteArray) (hp : ¬(file path).Touches w p) :
    (w'.setContent i bytes).sight? p = w.sight? p := by
  have hother : w'.nodeAt? p ≠ some (.file i) := fun hi => hp ⟨i, w', h, hi⟩
  have hcontent : ∀ j, j ≠ i →
      (w'.setContent i bytes).contents[j]? = w'.contents[j]? := fun j hj =>
    Array.getElem?_setIfInBounds_ne hj.symm
  rcases Workspace.openFile_eq_ok h with ⟨rfl, -⟩ | ⟨d, k, es, -, hes, hnone, rfl, rfl⟩
  · refine Workspace.sight?_eq_of_alike (Node.Alike.refl _) fun j hj => hcontent j ?_
    rintro rfl
    exact hother hj
  · have hne : p ≠ k :: d := by
      rintro rfl
      exact hother (Workspace.nodeAt?_newFile_self hes)
    have hchange := Workspace.changesAt_newFile hes (Or.inl hnone)
    refine Workspace.sight?_eq_of_alike (hchange.alike p hne) fun j hj => ?_
    have hsame := hchange.nodeAt?_eq hne (by rw [hj]; simp)
    have hji : j ≠ w.contents.size := by
      rintro rfl
      exact hother (hsame.trans hj)
    have hpush : (w.newFile d k).2.contents = w.contents.push ByteArray.empty := rfl
    rw [hcontent j hji, hpush, Array.getElem?_push, if_neg hji]

/-- Moving one thing in the place of another changes what is seen at these two places only. -/
theorem sight?_rename {source target : String} (h : w.rename source target = .ok w')
    (hsource : ∀ p es, w.NamesAt source p → w.nodeAt? p ≠ some (.dir es))
    (hp : ¬(replace source target).Touches w p) : w'.sight? p = w.sight? p := by
  obtain ⟨d, k, e, l, n, hd, he, -, -, hn, htarget, rfl⟩ := Workspace.rename_eq_ok h
  have hk : p ≠ k :: d := fun hpk => hp (Or.inl ⟨d, k, hd, hpk⟩)
  have hl : p ≠ l :: e := fun hpl => hp (Or.inr ⟨e, l, he, hpl⟩)
  have hfile : ∀ es, w.nodeAt? (k :: d) ≠ some (.dir es) := fun es => hsource _ es ⟨d, k, hd, rfl⟩
  obtain ⟨-, -, hproper, hdir⟩ := Workspace.resolveParent_eq_name hd
  obtain ⟨ds, hds, -⟩ := hdir.walkRoute_snoc hproper
  obtain ⟨-, -, hproper', hdir'⟩ := Workspace.resolveParent_eq_name he
  obtain ⟨fs, hfs, -⟩ := hdir'.walkRoute_snoc hproper'
  have herase := Workspace.changesAt_erase hds (Node.bare_of_ne_dir hfile)
  -- The directory of the target is still there, and what is at the target is no directory.
  obtain ⟨gs, hgs⟩ : ∃ gs, (w.modifyAt d (Node.erase k)).nodeAt? e = some (.dir gs) :=
    (herase.alike e fun hek => hfile fs (hek ▸ hfs)).exists_dir hfs
  have hbare : Node.Bare ((w.modifyAt d (Node.erase k)).nodeAt? (l :: e)) := by
    by_cases hkl : l :: e = k :: d
    · rw [hkl, Workspace.nodeAt?_erase_self hds]
      exact Node.bare_none
    · rw [herase.nodeAt?_eq hkl htarget]
      exact Node.bare_of_ne_dir htarget
  have hset := Workspace.changesAt_setEntry hgs hbare (Node.bare_of_ne_dir (hn ▸ hfile))
  exact Workspace.sight?_eq_of_alike ((herase.alike p hk).trans (hset.alike p hl)) fun _ _ => rfl

/-- An edit changes what is seen at the places it touches only. -/
theorem Applies.sight?_eq (h : e.Applies w w') (hp : ¬e.Touches w p) :
    w'.sight? p = w.sight? p := by
  cases h with
  | directory h => exact sight?_createDir h hp
  | file h bytes => exact sight?_setContent h bytes hp
  | replace h hsource => exact sight?_rename h hsource hp

theorem Applies.home_eq (h : e.Applies w w') : w'.home = w.home := by
  cases h with
  | directory h => exact (Workspace.createDir_grows h).1.home
  | file h bytes =>
    rcases Workspace.openFile_eq_ok h with ⟨rfl, -⟩ | ⟨d, k, es, -, -, -, -, rfl⟩
    · rfl
    · rfl
  | replace h _ =>
    obtain ⟨d, k, e, l, n, -, -, -, -, -, -, rfl⟩ := Workspace.rename_eq_ok h
    rfl

end Edit

/-! ## Runs of edits -/

namespace Workspace

/-- A workspace comes of another by edits of a kind, one after the other. -/
inductive Edited (A : Edit → Prop) (w : Workspace) : Workspace → Prop
  | refl : Edited A w w
  | step {u u' : Workspace} {e : Edit} (before : Edited A w u) (allowed : A e)
    (edit : e.Applies u u') : Edited A w u'

/-- A workspace comes of another by edits of a kind, and what is seen at a place is the same unless
one of them has touched the place. -/
structure ChangesOnly (A : Edit → Prop) (w w' : Workspace) : Prop where
  edited : Edited A w w'
  home : w'.home = w.home
  touched : ∀ p, w'.sight? p ≠ w.sight? p → ∃ u u' e, A e ∧ e.Touches u p ∧
    Edited A w u ∧ e.Applies u u' ∧ Edited A u' w'

namespace Edited

variable {A B : Edit → Prop} {w u w' : Workspace} {path : String}

theorem trans (h : Edited A w u) (h' : Edited A u w') : Edited A w w' := by
  induction h' with
  | refl => exact h
  | step _ allowed edit ih => exact ih.step allowed edit

theorem mono (h : Edited A w w') (hAB : ∀ e, A e → B e) : Edited B w w' := by
  induction h with
  | refl => exact .refl
  | step _ allowed edit ih => exact ih.step (hAB _ allowed) edit

/-- Edits change what is seen at the places that they touch only.  The induction is on the last
edit: it changes a place, or one before it has. -/
theorem changesOnly (h : Edited A w w') : ChangesOnly A w w' := by
  induction h with
  | refl => exact ⟨.refl, rfl, fun p hp => absurd rfl hp⟩
  | @step u u' e before allowed edit ih =>
    refine ⟨before.step allowed edit, edit.home_eq.trans ih.home, fun p hp => ?_⟩
    by_cases hbefore : u.sight? p = w.sight? p
    · have htouch : e.Touches u p := Classical.byContradiction fun hnot =>
        hp ((edit.sight?_eq hnot).trans hbefore)
      exact ⟨u, u', e, allowed, htouch, before, edit, .refl⟩
    · obtain ⟨v, v', f, hf, htouch, hv, hedit, hrest⟩ := ih.touched p hbefore
      exact ⟨v, v', f, hf, htouch, hv, hedit, hrest.step allowed edit⟩

/-- Writing a file is an edit. -/
theorem write (hA : A (.file path)) {bytes : ByteArray} (h : w.write path bytes = .ok w') :
    Edited A w w' := by
  obtain ⟨i, u, hopen, rfl⟩ := write_eq_ok h
  exact Edited.refl.step hA (.file hopen bytes)

/-- Making a directory with those above it is edits, even if it fails half-way. -/
theorem createDirsFrom :
    ∀ (fuel : Nat) (w : Workspace) (path : String),
      (∀ up, up = path ∨ Path.Above up path → A (.directory up)) →
      Edited A w (Workspace.createDirsFrom fuel w path).2
  | 0, w, path, _ => .refl
  | fuel + 1, w, path, hA => by
    -- A last try that fails leaves the workspace as it is, whatever it reports.
    have hlast : ∀ (u : Workspace) (e : FileFault),
        (if u.isDir path then (Except.ok (), u) else (.error e, u)).2 = u := by
      intro u e
      split
      · rfl
      · rfl
    have hself : A (.directory path) := hA path (Or.inl rfl)
    rw [Workspace.createDirsFrom]
    split
    · exact .refl
    split
    case h_1 u hcreate => exact Edited.refl.step hself (.directory hcreate)
    case h_2 =>
      split
      · exact .refl
      case h_2 up hup =>
      have habove : ∀ x, x = up ∨ Path.Above x up → A (.directory x) := by
        rintro x (rfl | hx)
        · exact hA x (Or.inr (.parent hup))
        · exact hA x (Or.inr (.further hup hx))
      have ih := createDirsFrom fuel w up habove
      split
      case h_1 e u hfrom =>
        rw [hfrom] at ih
        exact ih
      case h_2 u hfrom =>
        rw [hfrom] at ih
        split
        case h_1 u' hcreate => exact ih.step hself (.directory hcreate)
        case h_2 e _ =>
          rw [hlast]
          exact ih
    case h_3 e _ _ =>
      rw [hlast]
      exact .refl

end Edited

/-- A file that is written where a path leads nowhere is new, and all that was there is as it was. -/
theorem sight?_eq_of_write {w w' : Workspace} {path : String} {bytes : ByteArray}
    (hleads : w.leads path = false) (h : w.write path bytes = .ok w') {p : Place}
    (hp : w.sight? p ≠ none) : w'.sight? p = w.sight? p := by
  obtain ⟨i, u, hopen, rfl⟩ := write_eq_ok h
  refine Edit.sight?_setContent hopen bytes ?_
  rintro ⟨j, v, hopen', hj⟩
  rw [hopen, Except.ok.injEq, Prod.mk.injEq] at hopen'
  obtain ⟨rfl, rfl⟩ := hopen'
  rcases openFile_eq_ok hopen with ⟨-, q, hfound⟩ | ⟨d, k, es, -, hes, hnone, rfl, rfl⟩
  · rw [leads, node, resolve_enter_of_create hfound] at hleads
    cases hleads
  · refine hp ?_
    by_cases hpk : p = k :: d
    · exact hpk ▸ sight?_of_nodeAt?_eq_none hnone
    · -- The number of a new file has no content before.
      have hold := (changesAt_newFile hes (Or.inl hnone)).nodeAt?_eq_file hpk hj
      rw [sight?, hold]
      dsimp only
      rw [Array.getElem?_size, Option.map_none]

/-- Opening a file keeps directories and links, and makes none. -/
theorem keeps_of_openFile {w w' : Workspace} {path : String} {i : Nat}
    (h : w.openFile path = .ok (i, w')) : Keeps w' w := by
  rcases openFile_eq_ok h with ⟨rfl, -⟩ | ⟨d, k, es, -, hes, hnone, rfl, rfl⟩
  · exact Keeps.refl w'
  · have hchange := changesAt_newFile hes (Or.inl hnone)
    have hback : ChangesAt (k :: d) (w.newFile d k).2 w :=
      ⟨hchange.home.symm, fun q hq => (hchange.alike q hq).symm⟩
    exact hback.keeps (Or.inr ⟨_, nodeAt?_newFile_self hes⟩)

/-- A path that was written is no directory's, where it can be renamed: the file would not have been
opened. -/
theorem ne_dir_of_write {w u u' : Workspace} {path target : String} {bytes : ByteArray}
    (hwrite : w.write path bytes = .ok u) (h : u.rename path target = .ok u') {p : Place}
    (hp : u.NamesAt path p) (es : List (String × Node)) : u.nodeAt? p ≠ some (.dir es) := by
  obtain ⟨i, v, hopen, rfl⟩ := write_eq_ok hwrite
  obtain ⟨d, k, hparent, rfl⟩ := hp
  obtain ⟨d', k', -, -, -, hparent', -, hshort, ⟨hslash, -⟩, -⟩ := rename_eq_ok h
  rw [hparent, Except.ok.injEq, Prod.mk.injEq, LastName.name.injEq] at hparent'
  obtain ⟨rfl, rfl⟩ := hparent'
  obtain ⟨hfault, hnames, hk, hdir⟩ := resolveParent_eq_name hparent
  intro hes
  have hback : Keeps (v.setContent i bytes) v := keeps_of_root_eq rfl rfl
  have hkeeps : Keeps (v.setContent i bytes) w := hback.trans (keeps_of_openFile hopen)
  have hlast : (route path).names.getLast? = some k := by rw [hnames, List.getLast?_concat]
  have hstands : StandsIn w path k d := ⟨⟨hfault, hslash, hlast, hk⟩, hdir.keeps hkeeps⟩
  obtain ⟨fs, hfs⟩ := hkeeps.dir _ es hes
  obtain ⟨ds, hds⟩ := hstands.exists_dir
  have hdirect : Direct .create k ds := by
    refine Or.inr fun _ s hlink => ?_
    rw [← nodeAt?_cons hds, hfs] at hlink
    exact absurd hlink (by simp)
  have hresolve := hstands.resolve_eq hds hdirect
  rw [lastTarget_eq hds hshort, entryTarget, hfs] at hresolve
  rw [openFile, hresolve] at hopen
  cases hopen

end Workspace
end SinkAudit
