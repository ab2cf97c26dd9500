import SinkAudit.Proofs.Workspace.Edits

/-!
# Replacing what a path names

A file is replaced by writing another one beside it and renaming that.  What is replaced is the entry that
the path names, and not what the entry leads to; so a link is gone afterwards.  Usually this does not
matter, since the path then leads to the new file.  But the way to the directory of a path may go through
the entry that the path names: if `log` is a link to the directory it stands in, then `log/log` names that
link, and when the link has been replaced by a file, `log/log` leads nowhere.

* `look`: what is seen at the end of a path, links followed.
* `dir_or_named`: a path that leads to a file ends with a name; `resolve_create_of_enter`: it leads there
  also when a file may be made; `standsIn_of_file`: it stands in a directory.
* `read_eq_ok_iff`: what is read at a path is what is seen there.
* `Named.puts_of_write`: what a write has done that succeeded; `Puts.endsAlike_resolve`: a path leads
  afterwards where it led before, or to the place that was written; `Puts.look_eq`: so what is seen at it
  is what was seen before, or what was written.
* `namesLink`, `passesItself`: a path names a link; the way to a path goes through the link that it names.
* `Replaced`: a workspace after a file has been written and renamed; `Replaced.standsIn`,
  `Replaced.not_standsIn`: the path leads to the directory it led to, and to none if it passes itself.
-/

namespace SinkAudit
namespace Workspace

variable {w w' : Workspace} {path k : String} {d : Place}

/-! ## Looking -/

/-- What is seen at the end of a path, links followed. -/
def look (w : Workspace) (path : String) : Option Sight :=
  match w.node path with
  | .error _ => none
  | .ok (p, _) => w.sight? p

theorem sight?_of_file (hw : w.WellFormed) {p : Place} {i : Nat} (hi : w.nodeAt? p = some (.file i)) :
    w.sight? p = some (.file (w.content i)) := by
  have hlt := hw.bound p i hi
  rw [sight?, hi]
  dsimp only
  rw [content, Array.getD_eq_getD_getElem?, Array.getElem?_eq_getElem hlt, Option.getD_some,
    Option.map_some]

/-! ## Paths that end without a name -/

section Endings

variable {f : Trail → List String → Except FileFault Target} {p : Place} {n : Node}

/-- A walk whose last name is a dot, two dots or empty ends in a directory. -/
theorem dir_of_walk (hk : ¬Proper k)
    (hf : ∀ t ks, Trail.Valid w t → f t (ks ++ [k]) = .ok (.found p n) → ∃ es, n = .dir es) :
    ∀ (ks : List String) {t : Trail}, t.Valid w → w.walk .enter f t (ks ++ [k]) = .ok (.found p n) →
      ∃ es, n = .dir es
  | [], t, ht, h => by
    rw [List.nil_append, walk] at h
    split at h
    case h_2 => cases h
    case h_1 es hend =>
      by_cases hdot : k = "." ∨ k = ""
      · rw [if_pos hdot, walk] at h
        cases h
        exact ⟨es, hend⟩
      · rw [if_neg hdot] at h
        by_cases hup : k = ".."
        · rw [if_pos hup, walk] at h
          cases h
          cases t with
          | nil => exact ⟨es, hend⟩
          | cons e t =>
            obtain ⟨⟨fs, hfs, -⟩, -⟩ := ht
            exact ⟨fs, hfs⟩
        · exact absurd ⟨fun h => hdot (Or.inl h), fun h => hdot (Or.inr h), hup⟩ hk
  | j :: ks, t, ht, h => by
    rw [List.cons_append, walk_cons w f t j (by simp)] at h
    cases hmove : w.move t j with
    | fault e => rw [hmove] at h; cases h
    | stay =>
      rw [hmove] at h
      exact dir_of_walk hk hf ks ht h
    | up =>
      rw [hmove] at h
      exact dir_of_walk hk hf ks ht.tail h
    | absent =>
      rw [hmove] at h
      dsimp only at h
      rw [if_neg (by simp)] at h
      cases h
    | down m =>
      rw [hmove] at h
      exact dir_of_walk hk hf ks (ht.down hmove) h
    | jump target =>
      rw [hmove] at h
      dsimp only at h
      rw [if_neg (by simp), ← List.append_assoc] at h
      exact hf _ _ (ht.jump _) h

theorem dir_of_walkLinks (hk : ¬Proper k) :
    ∀ (m : Nat) (t : Trail) (ks : List String), Trail.Valid w t →
      w.walkLinks .enter m t (ks ++ [k]) = .ok (.found p n) → ∃ es, n = .dir es
  | 0, _, ks, ht, h => dir_of_walk hk (fun _ _ _ h => by cases h) ks ht h
  | m + 1, _, ks, ht, h => dir_of_walk hk (dir_of_walkLinks hk m) ks ht h

variable {g : Trail → List String → Except FileFault Target} {i : Nat}

/-- A walk to a file meets no slash after its last name, so that a file may be made on the way. -/
theorem walk_create_of_enter
    (hslash : ∀ t ks, Trail.Valid w t → f t (ks ++ [""]) ≠ .ok (.found p (.file i)))
    (hfg : ∀ t ks, Trail.Valid w t → f t ks = .ok (.found p (.file i)) →
      g t ks = .ok (.found p (.file i))) :
    ∀ (ks : List String) (t : Trail), t.Valid w →
      w.walk .enter f t ks = .ok (.found p (.file i)) →
      w.walk .create g t ks = .ok (.found p (.file i))
  | [], _, _, h => h
  | k :: ks, t, ht, h => by
    have hks : ks ≠ [""] := by
      rintro rfl
      obtain ⟨es, hes⟩ := dir_of_walk (k := "") (fun hproper => hproper.ne_empty rfl)
        (fun u ls hu hfound => absurd hfound (hslash u ls hu)) [k] ht h
      cases hes
    have ih := walk_create_of_enter hslash hfg ks
    have hfollow : ∀ (b : Bool) (q : Purpose), q ≠ .inspect → ¬((b && decide (q = .inspect)) = true) :=
      fun b q hq => by simp [hq]
    rw [walk_cons w f t k (by simp)] at h
    rw [walk_cons w g t k (fun hcreate => hks hcreate.2)]
    cases hmove : w.move t k with
    | fault e => rw [hmove] at h; cases h
    | stay => rw [hmove] at h; exact ih t ht h
    | up => rw [hmove] at h; exact ih t.tail ht.tail h
    | absent =>
      rw [hmove] at h
      dsimp only at h
      split at h
      · cases h
      · cases h
    | down m => rw [hmove] at h; exact ih _ (ht.down hmove) h
    | jump target =>
      rw [hmove] at h
      dsimp only at h ⊢
      rw [if_neg (hfollow _ _ (by simp))] at h
      rw [if_neg (hfollow _ _ (by simp))]
      exact hfg _ _ (ht.jump _) h

theorem walkLinks_create_of_enter :
    ∀ (m : Nat) (t : Trail) (ks : List String), Trail.Valid w t →
      w.walkLinks .enter m t ks = .ok (.found p (.file i)) →
      w.walkLinks .create m t ks = .ok (.found p (.file i))
  | 0, t, ks, ht, h =>
    walk_create_of_enter (fun _ _ _ h => by cases h) (fun _ _ _ h => by cases h) ks t ht h
  | m + 1, t, ks, ht, h => by
    refine walk_create_of_enter (fun u ls hu hfound => ?_) (walkLinks_create_of_enter m) ks t ht h
    obtain ⟨es, hes⟩ :=
      dir_of_walkLinks (k := "") (fun hproper => hproper.ne_empty rfl) m u ls hu hfound
    cases hes

/-- A path that leads to a file leads to it also when a file may be made. -/
theorem resolve_create_of_enter (h : w.resolve .enter path = .ok (.found p (.file i))) :
    w.resolve .create path = .ok (.found p (.file i)) := by
  rw [resolve] at h ⊢
  split at h
  case h_1 => cases h
  case h_2 =>
    rw [walkRoute] at h ⊢
    split at h
    case h_2 => cases h
    case h_1 t ht =>
      exact walkLinks_create_of_enter maxLinks t _ (valid_of_trailFrom? _ (Trail.valid_nil w) ht).1 h

/-- A path leads to a directory, or it ends with a name. -/
theorem dir_or_named (h : w.resolve .enter path = .ok (.found p n)) :
    (∃ es, n = .dir es) ∨ ∃ k, Named path k := by
  rw [resolve] at h
  cases hfault : pathFault? path with
  | some e => rw [hfault] at h; cases h
  | none =>
  rw [hfault, walkRoute] at h
  dsimp only at h
  split at h
  case h_2 => cases h
  case h_1 t ht =>
  have hvalid := (valid_of_trailFrom? _ (Trail.valid_nil w) ht).1
  have hend : ∀ ks k, (route path).steps = ks ++ [k] → ¬Proper k → ∃ es, n = .dir es := by
    intro ks k hsteps hk
    rw [hsteps] at h
    exact dir_of_walkLinks hk maxLinks t ks hvalid h
  cases hslash : (route path).slash with
  | true => exact Or.inl (hend _ "" (if_pos hslash) fun hproper => hproper.ne_empty rfl)
  | false =>
    obtain ⟨ks, k, hnames⟩ : ∃ ks k, (route path).names = ks ++ [k] := by
      rcases List.eq_nil_or_concat (route path).names with hnil | ⟨ks, k, hconcat⟩
      · exact absurd hnil (names_ne_nil (ne_empty_of_pathFault? hfault) hslash)
      · exact ⟨ks, k, by rw [hconcat, List.concat_eq_append]⟩
    by_cases hk : Proper k
    · exact Or.inr ⟨k, hfault, hslash, by rw [hnames, List.getLast?_concat], hk⟩
    · refine Or.inl (hend ks k ?_ hk)
      rw [Route.steps, hslash, if_neg Bool.false_ne_true, hnames]

/-- What is read at a path is the content of a file that it leads to. -/
theorem file_of_read {bytes : ByteArray} (h : w.read path = .ok bytes) :
    ∃ p i, w.resolve .enter path = .ok (.found p (.file i)) ∧ w.content i = bytes := by
  rw [read, node] at h
  cases hresolve : w.resolve .enter path with
  | error e => rw [hresolve] at h; cases h
  | ok target =>
    rw [hresolve] at h
    cases target with
    | missing d k => cases h
    | found p n =>
      cases n with
      | file i => exact ⟨p, i, rfl, Except.ok.inj h⟩
      | link t => cases h
      | dir es => cases h

theorem read_of_file (h : w.resolve .enter path = .ok (.found p (.file i))) :
    w.read path = .ok (w.content i) := by
  rw [read, node, h]

/-- A path that leads to a file stands in a directory. -/
theorem standsIn_of_file (h : w.resolve .enter path = .ok (.found p (.file i))) :
    ∃ k d, StandsIn w path k d := by
  rcases dir_or_named h with ⟨es, hes⟩ | ⟨k, hk⟩
  · cases hes
  · refine ⟨k, Classical.byContradiction fun hnone => ?_⟩
    obtain ⟨e, he⟩ := hk.resolve_eq_error hnone
    rw [he] at h
    cases h

/-- What is read at a path is what is seen there. -/
theorem read_eq_ok_iff (hw : w.WellFormed) {bytes : ByteArray} :
    w.read path = .ok bytes ↔ w.look path = some (.file bytes) := by
  constructor
  · intro h
    obtain ⟨p, i, hfile, rfl⟩ := file_of_read h
    rw [look, node, hfile]
    exact sight?_of_file hw (sound_of_resolve hfile)
  · intro h
    rw [look, node] at h
    cases hresolve : w.resolve .enter path with
    | error e => rw [hresolve] at h; cases h
    | ok target =>
      rw [hresolve] at h
      cases target with
      | missing d k => cases h
      | found p n =>
        have hp : w.nodeAt? p = some n := sound_of_resolve hresolve
        dsimp only at h
        cases n with
        | file i =>
          rw [sight?_of_file hw hp, Option.some.injEq, Sight.file.injEq] at h
          rw [read_of_file hresolve, h]
        | link t => rw [sight?, hp] at h; cases h
        | dir es => rw [sight?, hp] at h; cases h

end Endings

/-- If a path leads to nothing but directories, then what is seen at its end is told by `isDir`. -/
theorem look_eq_of_dir (h : ∀ p n, w.resolve .enter path = .ok (.found p n) → ∃ es, n = .dir es) :
    w.look path = if w.isDir path then some .directory else none := by
  rw [look, isDir, node]
  cases hresolve : w.resolve .enter path with
  | error e => rfl
  | ok target =>
    cases target with
    | missing d k => rfl
    | found p n =>
      obtain ⟨es, rfl⟩ := h p n hresolve
      have hp : w.nodeAt? p = some (.dir es) := sound_of_resolve hresolve
      dsimp only
      rw [if_pos rfl, sight?, hp]

/-- If the places that a path may name all hold directories, then it leads to directories only. -/
theorem dir_of_resolve (h : ∀ k d, StandsIn w path k d → ∃ es, w.nodeAt? (k :: d) = some (.dir es))
    {p : Place} {n : Node} (hresolve : w.resolve .enter path = .ok (.found p n)) :
    ∃ es, n = .dir es := by
  rcases dir_or_named hresolve with hdir | ⟨k, hk⟩
  · exact hdir
  · by_cases hstands : ∃ d, StandsIn w path k d
    · obtain ⟨d, hd⟩ := hstands
      obtain ⟨fs, hfs⟩ := h k d hd
      obtain ⟨es, hes⟩ := hd.exists_dir
      by_cases hshort : k.utf8ByteSize ≤ maxName
      · have hdirect : Direct .enter k es := by
          refine Or.inr fun _ t ht => ?_
          rw [← nodeAt?_cons hes, hfs] at ht
          exact absurd ht (by simp)
        rw [hd.resolve_eq hes hdirect, lastTarget_eq hes hshort, entryTarget, hfs] at hresolve
        cases hresolve
        exact ⟨fs, rfl⟩
      · rw [hd.resolve_long hshort] at hresolve
        cases hresolve
    · obtain ⟨e, he⟩ := hk.resolve_eq_error hstands
      rw [he] at hresolve
      cases hresolve

theorem isDir_eq_of_keeps (h : Keeps w w') (h' : Keeps w' w) : w'.isDir path = w.isDir path := by
  rw [Bool.eq_iff_iff, isDir_iff, isDir_iff]
  refine and_congr_right fun _ => ⟨?_, ?_⟩
  · rintro ⟨p, hp⟩
    exact ⟨p, hp.keeps h'⟩
  · rintro ⟨p, hp⟩
    exact ⟨p, hp.keeps h⟩

/-! ## Links -/

/-- Whether the entry that a path names is a link. -/
def namesLink (w : Workspace) (path : String) : Bool :=
  match w.resolve .inspect path with
  | .ok (.found _ (.link _)) => true
  | _ => false

/-- Whether the way to a path goes through the link that it names: without the link, the path does not lead
to a name in a directory. -/
def passesItself (w : Workspace) (path : String) : Bool :=
  w.namesLink path &&
    match (w.remove path).2.resolve .inspect path with
    | .ok (.missing _ _) => false
    | _ => true

theorem resolve_ne_link (h : w.namesLink path = false) (p : Place) (t : String) :
    w.resolve .inspect path ≠ .ok (.found p (.link t)) := by
  intro hlink
  rw [namesLink, hlink] at h
  cases h

theorem exists_missing (h : w.passesItself path = false) {p : Place} {t : String}
    (hlink : w.resolve .inspect path = .ok (.found p (.link t))) :
    ∃ d k, (w.remove path).2.resolve .inspect path = .ok (.missing d k) := by
  rw [passesItself, namesLink, hlink, Bool.true_and] at h
  split at h
  · rename_i d k hmissing
    exact ⟨d, k, hmissing⟩
  · cases h

/-! ## Writing -/

/-- The place that a path names ends with the last name of the path. -/
theorem NamesAt.getLast?_eq (h : w.NamesAt path (k :: d)) :
    (route path).names.getLast? = some k ∧ Proper k := by
  obtain ⟨e, j, hparent, hplace⟩ := h
  obtain ⟨-, hnames, hj, -⟩ := resolveParent_eq_name hparent
  obtain ⟨rfl, -⟩ := List.cons.inj hplace
  exact ⟨by rw [hnames, List.getLast?_concat], hj⟩

theorem StandsIn.eq_of_standsIn {e : Place} (h : StandsIn w path k d) (h' : StandsIn w path k e) :
    d = e := by
  have hparent := h.resolveParent_eq
  rw [h'.resolveParent_eq, Except.ok.injEq, Prod.mk.injEq] at hparent
  exact hparent.1.symm

/-- The node at the place that a path names, as `inspect` gives it. -/
theorem StandsIn.inspect_eq (h : StandsIn w path k d) (hk : k.utf8ByteSize ≤ maxName) :
    w.resolve .inspect path = .ok (w.entryTarget d k) := by
  obtain ⟨es, hes⟩ := h.exists_dir
  rw [h.resolve_eq hes (Or.inl rfl), lastTarget_eq hes hk]

/-- A path that leads to a file at a place other than the one it names, names a link. -/
theorem Keeps.namesLink_of_file (hw : Keeps w w') {p : Place} {i : Nat}
    (h : w.resolve .enter path = .ok (.found p (.file i))) (hp : ¬w.NamesAt path p) :
    w'.namesLink path = true := by
  obtain ⟨k, d, hd⟩ := standsIn_of_file h
  obtain ⟨es, hes⟩ := hd.exists_dir
  have hk : k.utf8ByteSize ≤ maxName := by
    refine Decidable.byContradiction fun hlong => ?_
    rw [hd.resolve_long hlong] at h
    cases h
  by_cases hlink : ∃ t, w.nodeAt? (k :: d) = some (.link t)
  · obtain ⟨t, ht⟩ := hlink
    rw [namesLink, (hd.keeps hw).inspect_eq hk, entryTarget, hw.link _ t ht]
  · have hdirect : Direct .enter k es := by
      refine Or.inr fun _ t ht => hlink ⟨t, ?_⟩
      rw [nodeAt?_cons hes, ht]
    rw [hd.resolve_eq hes hdirect, lastTarget_eq hes hk, Except.ok.injEq, entryTarget] at h
    split at h
    · cases h
    · cases h
      exact absurd ⟨d, k, hd.resolveParent_eq, rfl⟩ hp

/-- A write that succeeds where the path names no link has put a file at the place that it names, where
there was a file or nothing. -/
theorem Named.puts_of_write (h : Named path k) (hw : w.WellFormed)
    (hlink : w.namesLink path = false) {bytes : ByteArray} (hwrite : w.write path bytes = .ok w') :
    ∃ d, StandsIn w path k d ∧ k.utf8ByteSize ≤ maxName ∧ w.Vacant (k :: d) ∧
      Puts (k :: d) bytes w w' ∧ Keeps w' w := by
  obtain ⟨i, u, hopen, rfl⟩ := write_eq_ok hwrite
  have hback : Keeps (u.setContent i bytes) w :=
    (keeps_of_root_eq rfl rfl : Keeps (u.setContent i bytes) u).trans (keeps_of_openFile hopen)
  have hnot : ∀ e, w.resolve .create path ≠ .error e := by
    intro e he
    rw [openFile, he] at hopen
    cases hopen
  obtain ⟨d, hd⟩ : ∃ d, StandsIn w path k d := by
    refine Classical.byContradiction fun hnone => ?_
    obtain ⟨e, he⟩ := h.resolve_eq_error hnone
    exact hnot e (he .create)
  have hk : k.utf8ByteSize ≤ maxName := Decidable.byContradiction fun hlong =>
    hnot .nameTooLong (hd.resolve_long hlong .create)
  have hinspect := hd.inspect_eq hk
  have hvac : w.Vacant (k :: d) := by
    cases hnode : w.nodeAt? (k :: d) with
    | none => exact Or.inl hnode
    | some n =>
      cases n with
      | file j => exact Or.inr ⟨j, hnode⟩
      | link t =>
        rw [entryTarget, hnode] at hinspect
        exact absurd hinspect (resolve_ne_link hlink _ t)
      | dir fs =>
        obtain ⟨es, hes⟩ := hd.exists_dir
        have hdirect : Direct .create k es := by
          refine Or.inr fun _ t ht => ?_
          rw [← nodeAt?_cons hes, hnode] at ht
          exact absurd ht (by simp)
        rw [openFile, hd.resolve_eq hes hdirect, lastTarget_eq hes hk, entryTarget, hnode] at hopen
        cases hopen
  obtain ⟨v, hv, hputs⟩ := hd.write_ok hk hw hvac bytes
  rw [hwrite, Except.ok.injEq] at hv
  exact ⟨d, hd, hk, hvac, hv ▸ hputs, hback⟩

/-- What is seen elsewhere is as it was. -/
theorem Puts.sight?_eq {p q : Place} {bytes : ByteArray} (h : Puts p bytes w w') (hw : w.WellFormed)
    (hq : q ≠ p) : w'.sight? q = w.sight? q := by
  rcases h.alike q hq with heq | ⟨es, fs, hes, hfs⟩
  · cases hnode : w.nodeAt? q with
    | none => rw [sight?, sight?, ← heq, hnode]
    | some n =>
      cases n with
      | file i =>
        rw [sight?_of_file hw hnode, sight?_of_file h.wellFormed (heq ▸ hnode),
          h.content q i hq hnode]
      | link t => rw [sight?, sight?, ← heq, hnode]
      | dir es => rw [sight?, sight?, ← heq, hnode]
  · rw [sight?, sight?, hes, hfs]

/-! ## Looking after a write -/

/-- The place at which a walk ends. -/
def foundAt? : Except FileFault Target → Option Place
  | .ok (.found p _) => some p
  | _ => none

theorem look_eq_bind (w : Workspace) (path : String) :
    w.look path = (foundAt? (w.resolve .enter path)).bind w.sight? := by
  rw [look, node]
  cases w.resolve .enter path with
  | error e => rfl
  | ok target =>
    cases target with
    | missing d k => rfl
    | found p n => rfl

theorem resolve_of_foundAt? {p : Place} (h : foundAt? (w.resolve .enter path) = some p) {n : Node}
    (hn : w.nodeAt? p = some n) : w.resolve .enter path = .ok (.found p n) := by
  cases hresolve : w.resolve .enter path with
  | error e => rw [hresolve] at h; cases h
  | ok target =>
    rw [hresolve] at h
    cases target with
    | missing d k => cases h
    | found q m =>
      obtain rfl : q = p := Option.some.inj h
      have hm : w.nodeAt? q = some m := sound_of_resolve hresolve
      rw [hn, Option.some.injEq] at hm
      rw [hm]

/-- A move to a file. -/
def Move.isFile : Move → Bool
  | .down (.file _) => true
  | _ => false

/-- A move that does not lead on: it fails, or leads to nothing or to a file. -/
inductive Move.Stops : Move → Prop
  | fault (e : FileFault) : Stops (.fault e)
  | absent : Stops .absent
  | file (i : Nat) : Stops (.down (.file i))

/-- What stops after a change that keeps directories and links stopped before. -/
theorem KeptMove.stops {m m' : Move} (h : KeptMove m m') (h' : m'.Stops) : m.Stops := by
  cases h with
  | fault e => exact .fault e
  | absent => exact .absent
  | file i => exact .file i
  | stay => cases h'
  | up => cases h'
  | dir es fs => cases h'
  | jump s => cases h'

section Stops

variable {f : Trail → List String → Except FileFault Target} {t t' : Trail}

/-- A walk from what is no directory ends where it is or nowhere. -/
theorem foundAt?_of_not_dir (h : ¬∃ es, w.trailEnd t = .dir es) (ks : List String) :
    foundAt? (w.walk .enter f t ks) = if ks = [] then some t.place else none := by
  cases ks with
  | nil => rfl
  | cons k ks =>
    rw [walk_cons w f t k (by simp), move_of_not_dir h]
    rfl

/-- A walk whose next move stops ends at a file, if that is its last move. -/
theorem foundAt?_of_stops (h : (w.move t k).Stops) (ks : List String) :
    foundAt? (w.walk .enter f t (k :: ks)) =
      if ks = [] ∧ (w.move t k).isFile = true then some (k :: t.place) else none := by
  rw [walk_cons w f t k (by simp)]
  generalize w.move t k = m at h ⊢
  cases h with
  | fault e => simp [Move.isFile, foundAt?]
  | absent =>
    cases ks with
    | nil => simp [Move.isFile, foundAt?]
    | cons j ks => simp [foundAt?]
  | file i =>
    dsimp only
    have hfile : ¬∃ es, w.trailEnd ((k, .file i) :: t) = .dir es := by
      rintro ⟨es, hes⟩
      cases hes
    rw [foundAt?_of_not_dir hfile]
    simp [Move.isFile, Trail.place]

theorem exists_file_of_isFile (ht : t.Valid w) (h : (w.move t k).isFile = true) :
    ∃ i, w.move t k = .down (.file i) ∧ w.nodeAt? (k :: t.place) = some (.file i) := by
  cases hmove : w.move t k with
  | down n =>
    rw [hmove] at h
    cases n with
    | file i => exact ⟨i, rfl, nodeAt?_place (ht.down hmove)⟩
    | link s => cases h
    | dir es => cases h
  | _ => rw [hmove] at h; cases h

/-- A name that leads to a file leads to one after a change that keeps directories and links, if there
is one at its place. -/
theorem Keeps.isFile_move (hw : Keeps w w') (ht : t.Valid w) (ht' : t'.Valid w')
    (hplace : t'.place = t.place) (h : (w.move t k).isFile = true) {j : Nat}
    (hj : w'.nodeAt? (k :: t.place) = some (.file j)) : (w'.move t' k).isFile = true := by
  obtain ⟨i, hmove, -⟩ := exists_file_of_isFile ht h
  obtain ⟨es, hend, -⟩ := child?_of_move_eq_down hmove
  obtain ⟨fs, hend'⟩ := hw.trailEnd ht ht' hplace hend
  rw [← hplace, nodeAt?_cons (by rw [nodeAt?_place ht', hend'])] at hj
  rw [Workspace.move, hend] at hmove
  rw [Workspace.move, hend']
  dsimp only at hmove ⊢
  split at hmove
  case isTrue => cases hmove
  case isFalse hdot =>
  split at hmove
  case isTrue => cases hmove
  case isFalse hup =>
  split at hmove
  case isTrue => cases hmove
  case isFalse hlong =>
  rw [if_neg hdot, if_neg hup, if_neg hlong, hj]
  rfl

theorem foundAt?_walkLinks_of_not_dir (h : ¬∃ es, w.trailEnd t = .dir es) {n : Nat}
    {ks : List String} (hks : ks ≠ []) : foundAt? (w.walkLinks .enter n t ks) = none := by
  cases n with
  | zero => exact (foundAt?_of_not_dir h ks).trans (if_neg hks)
  | succ n => exact (foundAt?_of_not_dir h ks).trans (if_neg hks)

end Stops

/-- Two walks end at the same place; or the second ends at a place where nothing was, and the first does
not end. -/
def EndsAlike (w : Workspace) (q : Place) (r r' : Except FileFault Target) : Prop :=
  foundAt? r' = foundAt? r ∨ foundAt? r = none ∧ foundAt? r' = some q ∧ w.nodeAt? q = none

section Written

variable {q : Place} {bytes : ByteArray} (h : Puts q bytes w w') (hq : w.Vacant q)
  (hback : Keeps w' w)

include h hq hback

/-- A move to a file is one after a write, and it is the only new one that is to the place that was
written. -/
theorem Puts.isFile_move {t t' : Trail} (ht : t.Valid w) (ht' : t'.Valid w')
    (hplace : t'.place = t.place) :
    (w'.move t' k).isFile = (w.move t k).isFile ∨
      (w.move t k).isFile = false ∧ (w'.move t' k).isFile = true ∧ k :: t.place = q ∧
        w.nodeAt? q = none := by
  have hchange : ChangesAt q w w' := ⟨h.keeps.home, h.alike⟩
  obtain ⟨j, hj, -⟩ := h.file
  cases hbefore : (w.move t k).isFile with
  | true =>
    obtain ⟨i, -, hi⟩ := exists_file_of_isFile ht hbefore
    refine Or.inl ?_
    by_cases hk : k :: t.place = q
    · exact h.keeps.isFile_move ht ht' hplace hbefore (hk ▸ hj)
    · exact h.keeps.isFile_move ht ht' hplace hbefore ((h.nodeAt?_eq hk (Or.inr ⟨i, hi⟩)).trans hi)
  | false =>
    cases hafter : (w'.move t' k).isFile with
    | false => exact Or.inl rfl
    | true =>
      obtain ⟨i, -, hi⟩ := exists_file_of_isFile ht' hafter
      -- A file that was there before would have been found.
      have hnew : ∀ i, w.nodeAt? (k :: t.place) ≠ some (.file i) := by
        intro i hi
        have hfile := hback.isFile_move ht' ht hplace.symm hafter (hplace ▸ hi)
        rw [hbefore] at hfile
        cases hfile
      have hk : k :: t.place = q := by
        refine Decidable.byContradiction fun hne => hnew i ?_
        exact hchange.nodeAt?_eq_file hne (hplace ▸ hi)
      refine Or.inr ⟨rfl, rfl, hk, ?_⟩
      rcases hq with hnone | ⟨i, hi⟩
      · exact hnone
      · exact absurd (hk ▸ hi) (hnew i)

/-- A walk after a write ends where it ended before, or at the place that was written. -/
theorem Puts.endsAlike_walk {f g : Trail → List String → Except FileFault Target}
    (hfg : ∀ t t' ks, Trail.Valid w t → Trail.Valid w' t' → t'.place = t.place →
      EndsAlike w q (f t ks) (g t' ks)) :
    ∀ (ks : List String) {t t' : Trail}, t.Valid w → t'.Valid w' → t'.place = t.place →
      EndsAlike w q (w.walk .enter f t ks) (w'.walk .enter g t' ks)
  | [], _, _, _, _, hplace => Or.inl (congrArg some hplace)
  | k :: ks, t, t', ht, ht', hplace => by
    have ih := @Puts.endsAlike_walk f g hfg ks
    have hkept := h.keeps.move ht ht' hplace k
    have hkept' := hback.move ht' ht hplace.symm k
    have hnot : ∀ b, ¬((b && decide (Purpose.enter = .inspect)) = true) := by simp
    by_cases hstops : (w.move t k).Stops
    · rw [EndsAlike, foundAt?_of_stops hstops, foundAt?_of_stops (hkept'.stops hstops), hplace]
      rcases h.isFile_move hq hback (k := k) ht ht' hplace with hsame | ⟨hno, hyes, hk, hnone⟩
      · rw [hsame]
        exact Or.inl rfl
      · rw [hno, hyes, hk]
        by_cases hks : ks = []
        · exact Or.inr ⟨by simp, by simp [hks], hnone⟩
        · exact Or.inl (by simp [hks])
    · rw [walk_cons w f t k (by simp), walk_cons w' g t' k (by simp)]
      generalize hm : w.move t k = m at hkept hstops ⊢
      generalize hm' : w'.move t' k = m' at hkept ⊢
      cases hkept with
      | fault e => exact absurd (.fault e) hstops
      | absent => exact absurd .absent hstops
      | file i => exact absurd (.file i) hstops
      | stay => exact ih ht ht' hplace
      | up =>
        refine ih ht.tail ht'.tail ?_
        rw [Trail.place, Trail.place, List.map_tail, List.map_tail]
        exact congrArg List.tail hplace
      | dir es fs => exact ih (ht.down hm) (ht'.down hm') (congrArg (k :: ·) hplace)
      | jump s =>
        dsimp only
        rw [if_neg (hnot _), if_neg (hnot _)]
        refine hfg _ _ _ (ht.jump _) (ht'.jump _) ?_
        cases (route s).absolute with
        | true => rfl
        | false => exact hplace

theorem Puts.endsAlike_walkLinks :
    ∀ (n : Nat) (t t' : Trail) (ks : List String), Trail.Valid w t → Trail.Valid w' t' →
      t'.place = t.place →
      EndsAlike w q (w.walkLinks .enter n t ks) (w'.walkLinks .enter n t' ks)
  | 0, _, _, ks, ht, ht', hplace =>
    h.endsAlike_walk hq hback (fun _ _ _ _ _ _ => Or.inl rfl) ks ht ht' hplace
  | n + 1, _, _, ks, ht, ht', hplace =>
    h.endsAlike_walk hq hback (Puts.endsAlike_walkLinks n) ks ht ht' hplace

/-- A path leads after a write where it led before, or to the place that was written. -/
theorem Puts.endsAlike_resolve (path : String) :
    EndsAlike w q (w.resolve .enter path) (w'.resolve .enter path) := by
  rw [resolve, resolve]
  cases hfault : pathFault? path with
  | some e => exact Or.inl rfl
  | none =>
  have hsteps : (route path).steps ≠ [] := steps_ne_nil hfault
  dsimp only
  rw [walkRoute, walkRoute, h.keeps.home]
  generalize (if (route path).absolute = true then [] else w.home.reverse) = start
  cases ht : trailFrom? [] w.root start with
  | none =>
    cases ht' : trailFrom? [] w'.root start with
    | none => exact Or.inl rfl
    | some t' =>
      refine Or.inl (foundAt?_walkLinks_of_not_dir ?_ hsteps)
      rintro ⟨es, hend⟩
      obtain ⟨t, hsome⟩ := hback.exists_trailFrom? ht' hend
      rw [ht] at hsome
      cases hsome
  | some t =>
    cases ht' : trailFrom? [] w'.root start with
    | none =>
      refine Or.inl (foundAt?_walkLinks_of_not_dir ?_ hsteps).symm
      rintro ⟨es, hend⟩
      obtain ⟨t', hsome⟩ := h.keeps.exists_trailFrom? ht hend
      rw [ht'] at hsome
      cases hsome
    | some t' =>
      obtain ⟨hvalid, hplace⟩ := valid_of_trailFrom? _ (Trail.valid_nil w) ht
      obtain ⟨hvalid', hplace'⟩ := valid_of_trailFrom? _ (Trail.valid_nil w') ht'
      exact h.endsAlike_walkLinks hq hback maxLinks t t' _ hvalid hvalid' (hplace'.trans hplace.symm)

/-- What is seen at a path after a write is what was seen there before, or the path leads to the place that
was written. -/
theorem Puts.look_eq (hw : w.WellFormed) (path : String) :
    w'.look path = w.look path ∨
      w.look path = w.sight? q ∧ w'.look path = some (.file bytes) ∧
        ∃ i, w'.resolve .enter path = .ok (.found q (.file i)) := by
  have hends := h.endsAlike_resolve hq hback path
  rw [EndsAlike] at hends
  obtain ⟨i, hi, hcontent⟩ := h.file
  have hfile : w'.sight? q = some (.file bytes) := hcontent ▸ sight?_of_file h.wellFormed hi
  rw [look_eq_bind, look_eq_bind]
  rcases hends with hsame | ⟨hnone, hfound, hempty⟩
  · rw [hsame]
    cases hfound : foundAt? (w.resolve .enter path) with
    | none => exact Or.inl rfl
    | some p =>
      rw [Option.bind_some, Option.bind_some]
      by_cases hp : p = q
      · subst hp
        exact Or.inr ⟨rfl, hfile, i, resolve_of_foundAt? (hsame.trans hfound) hi⟩
      · exact Or.inl (h.sight?_eq hw hp)
  · rw [hnone, hfound]
    exact Or.inr ⟨(sight?_of_nodeAt?_eq_none hempty).symm, hfile, i, resolve_of_foundAt? hfound hi⟩

end Written

/-! ## Replacing -/

/-- A workspace after a file has been written at one place and moved to another, in the place of what was
there. -/
structure Replaced (p q : Place) (bytes : ByteArray) (w w' : Workspace) : Prop where
  wellFormed : w'.WellFormed
  home : w'.home = w.home
  file : ∃ i, w'.nodeAt? p = some (.file i) ∧ w'.content i = bytes ∧
    ∀ r j, r ≠ q → w.nodeAt? r = some (.file j) → j ≠ i
  gone : w'.nodeAt? q = none
  alike : ∀ r, r ≠ p → r ≠ q → Node.Alike (w.nodeAt? r) (w'.nodeAt? r)
  content : ∀ r j, r ≠ q → w.nodeAt? r = some (.file j) → w'.content j = w.content j

section Replaced

variable {q : Place} {bytes : ByteArray} (h : Replaced (k :: d) q bytes w w')
  (hd : StandsIn w path k d) (hk : k.utf8ByteSize ≤ maxName) (hq : w.Vacant q)

include h hd hk hq

/-- Where a link is replaced, the directories and links that are left are those that are left without it. -/
theorem Replaced.keeps_remove {t : String} (ht : w.nodeAt? (k :: d) = some (.link t)) :
    w.resolve .inspect path = .ok (.found (k :: d) (.link t)) ∧
      (w.remove path).2.nodeAt? (k :: d) = none ∧ Keeps (w.remove path).2 w ∧
      Keeps (w.remove path).2 w' ∧ Keeps w' (w.remove path).2 := by
  obtain ⟨es, hes⟩ := hd.exists_dir
  have hinspect : w.resolve .inspect path = .ok (.found (k :: d) (.link t)) := by
    rw [hd.inspect_eq hk, entryTarget, ht]
  have hremove : (w.remove path).2 = w.modifyAt d (Node.erase k) := by rw [remove, hinspect]
  have herase : ChangesAt (k :: d) w (w.remove path).2 :=
    hremove ▸ changesAt_erase hes (Node.bare_of_ne_dir fun fs hfs => by rw [ht] at hfs; cases hfs)
  have hgone : (w.remove path).2.nodeAt? (k :: d) = none := hremove ▸ nodeAt?_erase_self hes k
  have hne : ∀ r n, (w.remove path).2.nodeAt? r = some n → r ≠ k :: d := by
    rintro r n hr rfl
    rw [hgone] at hr
    cases hr
  refine ⟨hinspect, hgone,
    keeps_of_alike herase.home.symm fun r n hr _ => (herase.alike r (hne r n hr)).symm,
    keeps_of_alike (h.home.trans herase.home.symm) fun r n hr hn => ?_,
    keeps_of_alike (herase.home.trans h.home.symm) fun r n hr hn => ?_⟩
  · have hrk := hne r n hr
    have hrq : r ≠ q := by
      rintro rfl
      rcases hq with hnone | ⟨i, hi⟩
      · rw [herase.nodeAt?_eq hrk (by rw [hnone]; simp), hnone] at hr
        cases hr
      · rw [herase.nodeAt?_eq hrk (by rw [hi]; simp), hi] at hr
        exact hn i (Option.some.inj hr).symm
    exact (herase.alike r hrk).symm.trans (h.alike r hrk hrq)
  · have hrk : r ≠ k :: d := by
      rintro rfl
      obtain ⟨i, hi, -⟩ := h.file
      rw [hi] at hr
      exact hn i (Option.some.inj hr).symm
    have hrq : r ≠ q := by
      rintro rfl
      rw [h.gone] at hr
      cases hr
    exact (h.alike r hrk hrq).symm.trans (herase.alike r hrk)

/-- Replacing keeps the way to a path that does not pass itself. -/
theorem Replaced.standsIn (hdir : ∀ es, w.nodeAt? (k :: d) ≠ some (.dir es))
    (hpass : w.passesItself path = false) : StandsIn w' path k d := by
  by_cases hlink : ∃ t, w.nodeAt? (k :: d) = some (.link t)
  case neg =>
    have hvac : w.Vacant (k :: d) := by
      cases hnode : w.nodeAt? (k :: d) with
      | none => exact Or.inl hnode
      | some n =>
        cases n with
        | file j => exact Or.inr ⟨j, hnode⟩
        | link t => exact absurd ⟨t, hnode⟩ hlink
        | dir es => exact absurd hnode (hdir es)
    refine hd.keeps (keeps_of_alike h.home fun r n hr hn => ?_)
    exact h.alike r (hvac.ne_of_nodeAt? hr hn) (hq.ne_of_nodeAt? hr hn)
  case pos =>
    obtain ⟨t, ht⟩ := hlink
    obtain ⟨hinspect, -, hbefore, hafter, -⟩ := h.keeps_remove hd hk hq ht
    obtain ⟨e, l, hmissing⟩ := exists_missing hpass hinspect
    obtain ⟨d', hd', -, -⟩ := hd.toNamed.exists_standsIn hmissing
    obtain rfl := hd.eq_of_standsIn (hd'.keeps hbefore)
    exact hd'.keeps hafter

/-- A path that passes itself has no way left when the link is replaced. -/
theorem Replaced.not_standsIn (hpass : w.passesItself path = true) : ¬∃ e, StandsIn w' path k e := by
  rintro ⟨e, he⟩
  rw [passesItself, Bool.and_eq_true] at hpass
  obtain ⟨hlink, hlost⟩ := hpass
  rw [namesLink, hd.inspect_eq hk, entryTarget] at hlink
  obtain ⟨t, ht⟩ : ∃ t, w.nodeAt? (k :: d) = some (.link t) := by
    cases hnode : w.nodeAt? (k :: d) with
    | none => rw [hnode] at hlink; cases hlink
    | some n =>
      cases n with
      | file j => rw [hnode] at hlink; cases hlink
      | link t => exact ⟨t, rfl⟩
      | dir es => rw [hnode] at hlink; cases hlink
  obtain ⟨-, hgone, hbefore, -, hback⟩ := h.keeps_remove hd hk hq ht
  -- The way would be there without the link, and so would the directory it leads to.
  have he' := he.keeps hback
  obtain rfl := hd.eq_of_standsIn (he'.keeps hbefore)
  rw [he'.inspect_eq hk, entryTarget, hgone] at hlost
  cases hlost

end Replaced

end Workspace
end SinkAudit
