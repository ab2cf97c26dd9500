import SinkAudit.Proofs.Workspace.Tree

/-!
# Walks through a workspace

What a path leads to, told from the directory it stands in.

* `move`: what one name does on a walk; `walk_cons` reads the walk as its moves.
* `Continues`: a walk to a last name is the walk to the directory above, and then one look at the
  entries of that directory (`continues_walkRoute`).
* `DirAt`: names lead to a directory.  Dots and empty names on the way count for nothing
  (`dirAt_iff_solid`), what comes before is a directory too (`exists_dirAt_of_append`), and a change
  that keeps directories and links keeps it (`DirAt.keeps`).
* `Named`: a path that ends with a proper name, with what `resolve` and `resolveParent` give for it.
-/

namespace SinkAudit
namespace Workspace

/-! ## Trails -/

/-- Every node of a trail is the entry of the one above it. -/
def Trail.Valid (w : Workspace) : Trail → Prop
  | [] => True
  | (k, n) :: t =>
    (∃ es, w.trailEnd t = .dir es ∧ Node.child? k es = some n) ∧ Trail.Valid w t

theorem Trail.valid_nil (w : Workspace) : Trail.Valid w [] := trivial

theorem Trail.Valid.tail {w : Workspace} : ∀ {t : Trail}, t.Valid w → Trail.Valid w t.tail
  | [], h => h
  | _ :: _, h => h.2

/-- A trail ends at the node of its place. -/
theorem nodeAt?_place {w : Workspace} :
    ∀ {t : Trail}, t.Valid w → w.nodeAt? t.place = some (w.trailEnd t)
  | [], _ => by rw [nodeAt?, Trail.place, List.map_nil, List.reverse_nil, Node.get?_nil, trailEnd]
  | (k, n) :: t, h => by
    obtain ⟨⟨es, hend, hchild⟩, ht⟩ := h
    have hdir := nodeAt?_place ht
    rw [hend] at hdir
    have hplace : Trail.place ((k, n) :: t) = k :: Trail.place t := rfl
    rw [hplace, nodeAt?_cons hdir, hchild, trailEnd]

/-- A trail down from the end of a trail. -/
theorem valid_of_trailFrom? {w : Workspace} :
    ∀ (ks : List String) {sofar t : Trail}, sofar.Valid w →
      trailFrom? sofar (w.trailEnd sofar) ks = some t →
      t.Valid w ∧ t.place = ks.reverse ++ sofar.place
  | [], sofar, t, hv, h => by
    rw [trailFrom?, Option.some.injEq] at h
    exact h ▸ ⟨hv, rfl⟩
  | k :: ks, sofar, t, hv, h => by
    cases hend : w.trailEnd sofar with
    | file i => rw [hend] at h; exact absurd h (by simp [trailFrom?])
    | link s => rw [hend] at h; exact absurd h (by simp [trailFrom?])
    | dir es =>
      rw [hend, trailFrom?] at h
      cases hc : Node.child? k es with
      | none => rw [hc] at h; exact absurd h (by simp)
      | some n =>
        rw [hc] at h
        have hdown : Trail.Valid w ((k, n) :: sofar) := ⟨⟨es, hend, hc⟩, hv⟩
        obtain ⟨hvalid, hplace⟩ := valid_of_trailFrom? ks hdown h
        refine ⟨hvalid, ?_⟩
        rw [hplace, List.reverse_cons, List.append_assoc]
        rfl

/-- There is a trail to every node. -/
theorem exists_trailFrom? {n : Node} :
    ∀ (ks : List String) {m : Node} (sofar : Trail), n.get? ks = some m →
      ∃ t, trailFrom? sofar n ks = some t
  | [], _, sofar, _ => ⟨sofar, by rw [trailFrom?]⟩
  | k :: ks, m, sofar, h => by
    cases n with
    | file i => exact absurd h (by simp)
    | link s => exact absurd h (by simp)
    | dir es =>
      rw [Node.get?_dir_cons] at h
      cases hc : Node.child? k es with
      | none => rw [hc] at h; exact absurd h (by simp)
      | some n =>
        rw [hc, Option.bind_some] at h
        obtain ⟨t, ht⟩ := exists_trailFrom? ks ((k, n) :: sofar) h
        exact ⟨t, by rw [trailFrom?, hc]; exact ht⟩

/-! ## Moves -/

/-- What one name does on a walk. -/
inductive Move where
  | fault (e : FileFault)
  | stay
  | up
  | absent
  | down (n : Node)
  | jump (target : String)

/-- The move that a name makes at the end of a trail. -/
def move (w : Workspace) (t : Trail) (k : String) : Move :=
  match w.trailEnd t with
  | .dir es =>
    if k = "." ∨ k = "" then .stay
    else if k = ".." then .up
    else if maxName < k.utf8ByteSize then .fault .nameTooLong
    else
      match Node.child? k es with
      | none => .absent
      | some (.link target) => .jump target
      | some n => .down n
  | _ => .fault .notDirectory

/-- A name that is an entry of a directory and nothing else. -/
structure Proper (k : String) : Prop where
  ne_dot : k ≠ "."
  ne_empty : k ≠ ""
  ne_up : k ≠ ".."

/-- A walk is its first move and the walk that is left. -/
theorem walk_cons (w : Workspace) {q : Purpose} (f : Trail → List String → Except FileFault Target)
    (t : Trail) (k : String) {ks : List String} (hq : ¬(q = .create ∧ ks = [""])) :
    w.walk q f t (k :: ks) =
      match w.move t k with
      | .fault e => .error e
      | .stay => w.walk q f t ks
      | .up => w.walk q f t.tail ks
      | .absent => if ks.isEmpty then .ok (.missing t.place k) else .error .notFound
      | .down n => w.walk q f ((k, n) :: t) ks
      | .jump target =>
        if ks.isEmpty && q = .inspect then .ok (.found (k :: t.place) (.link target))
        else f (if (route target).absolute then [] else t) ((route target).steps ++ ks) := by
  rw [walk, move]
  cases w.trailEnd t with
  | file i => rfl
  | link s => rfl
  | dir es =>
    dsimp only
    by_cases hdot : k = "." ∨ k = ""
    · rw [if_pos hdot, if_pos hdot]
    · rw [if_neg hdot, if_neg hdot]
      by_cases hup : k = ".."
      · rw [if_pos hup, if_pos hup]
      · rw [if_neg hup, if_neg hup, if_neg hq]
        by_cases hlong : maxName < k.utf8ByteSize
        · rw [if_pos hlong, if_pos hlong]
        · rw [if_neg hlong, if_neg hlong]
          cases Node.child? k es with
          | none => rfl
          | some n => cases n <;> rfl

/-- No move is made where there is no directory. -/
theorem move_of_not_dir {w : Workspace} {t : Trail} (h : ¬∃ es, w.trailEnd t = .dir es)
    (k : String) : w.move t k = .fault .notDirectory := by
  rw [move]
  cases hend : w.trailEnd t with
  | file i => rfl
  | link s => rfl
  | dir es => exact absurd ⟨es, hend⟩ h

theorem move_dot {w : Workspace} {t : Trail} {es : List (String × Node)}
    (hend : w.trailEnd t = .dir es) {k : String} (hk : k = "." ∨ k = "") : w.move t k = .stay := by
  rw [move, hend]
  exact if_pos hk

theorem move_dir {w : Workspace} {t : Trail} {es : List (String × Node)}
    (hend : w.trailEnd t = .dir es) {k : String} (hk : Proper k) :
    w.move t k =
      if maxName < k.utf8ByteSize then .fault .nameTooLong
      else
        match Node.child? k es with
        | none => .absent
        | some (.link target) => .jump target
        | some n => .down n := by
  have hdot : ¬(k = "." ∨ k = "") := fun h => h.elim hk.ne_dot hk.ne_empty
  rw [move, hend]
  dsimp only
  rw [if_neg hdot, if_neg hk.ne_up]

/-- A way down leads to an entry that is no link. -/
theorem child?_of_move_eq_down {w : Workspace} {t : Trail} {k : String} {n : Node}
    (h : w.move t k = .down n) :
    ∃ es, w.trailEnd t = .dir es ∧ Node.child? k es = some n ∧ ∀ s, n ≠ .link s := by
  obtain ⟨es, hend⟩ : ∃ es, w.trailEnd t = .dir es := by
    refine Classical.byContradiction fun hdir => ?_
    rw [move_of_not_dir hdir] at h
    exact absurd h (by simp)
  rw [move, hend] at h
  dsimp only at h
  split at h
  · exact absurd h (by simp)
  split at h
  · exact absurd h (by simp)
  split at h
  · exact absurd h (by simp)
  cases hc : Node.child? k es with
  | none => rw [hc] at h; exact absurd h (by simp)
  | some m =>
    rw [hc] at h
    cases m with
    | link s => exact absurd h (by simp)
    | file i =>
      have hn : Node.file i = n := by simpa using h
      exact ⟨es, hend, by rw [hc, hn], fun s hs => absurd (hn.trans hs) (by simp)⟩
    | dir fs =>
      have hn : Node.dir fs = n := by simpa using h
      exact ⟨es, hend, by rw [hc, hn], fun s hs => absurd (hn.trans hs) (by simp)⟩

theorem Trail.Valid.down {w : Workspace} {t : Trail} (ht : t.Valid w) {k : String} {n : Node}
    (h : w.move t k = .down n) : Trail.Valid w ((k, n) :: t) := by
  obtain ⟨es, hend, hc, -⟩ := child?_of_move_eq_down h
  exact ⟨⟨es, hend, hc⟩, ht⟩

theorem Trail.Valid.jump {w : Workspace} {t : Trail} (ht : t.Valid w) (absolute : Bool) :
    Trail.Valid w (if absolute then [] else t) := by
  cases absolute with
  | true => exact trivial
  | false => exact ht

/-! ## The last name -/

/-- What a look at the entries of a directory gives for a name. -/
def lastTarget (p : Place) (es : List (String × Node)) (k : String) : Except FileFault Target :=
  if maxName < k.utf8ByteSize then .error .nameTooLong
  else
    match Node.child? k es with
    | none => .ok (.missing p k)
    | some n => .ok (.found (k :: p) n)

/-- Nothing is followed at a name: links are taken as they are, or the entry is none. -/
def Direct (q : Purpose) (k : String) (es : List (String × Node)) : Prop :=
  q = .inspect ∨ (k.utf8ByteSize ≤ maxName → ∀ s, Node.child? k es ≠ some (.link s))

/-- The second walk goes on from the first by one name: it fails as the first does, or looks that
name up in the directory where the first ends, unless a link has to be followed there. -/
inductive Continues (w : Workspace) (q : Purpose) (k : String) :
    Except FileFault Target → Except FileFault Target → Prop
  | error (e : FileFault) : Continues w q k (.error e) (.error e)
  | found {p : Place} {es : List (String × Node)} {r : Except FileFault Target}
    (hdir : w.nodeAt? p = some (.dir es))
    (hlast : Direct q k es → r = lastTarget p es k) :
    Continues w q k (.ok (.found p (.dir es))) r

/-- The last move of a walk is a look at the entries. -/
theorem walk_last {w : Workspace} {q : Purpose}
    (f : Trail → List String → Except FileFault Target) {t : Trail} {es : List (String × Node)}
    (hend : w.trailEnd t = .dir es) {k : String} (hk : Proper k)
    (hdirect : Direct q k es) :
    w.walk q f t [k] = lastTarget t.place es k := by
  rw [walk_cons w f t k (by simp), move_dir hend hk, lastTarget]
  by_cases hlong : maxName < k.utf8ByteSize
  · rw [if_pos hlong, if_pos hlong]
  · rw [if_neg hlong, if_neg hlong]
    cases hc : Node.child? k es with
    | none => rfl
    | some n =>
      cases n with
      | file i => exact walk.eq_1 w q f _
      | dir fs => exact walk.eq_1 w q f _
      | link s =>
        rcases hdirect with rfl | hshort
        · rfl
        · exact absurd hc (hshort (Nat.not_lt.mp hlong) s)

/-- A walk to a name, from the walk to the directory that holds it: one move. -/
theorem continues_walk {w : Workspace} {q : Purpose} {k : String} (hk : Proper k)
    {f g : Trail → List String → Except FileFault Target}
    (hfg : ∀ t ks, Trail.Valid w t → Continues w q k (f t (ks ++ ["."])) (g t (ks ++ [k]))) :
    ∀ (ks : List String) {t : Trail}, t.Valid w →
      Continues w q k (w.walk .enter f t (ks ++ ["."])) (w.walk q g t (ks ++ [k]))
  | [], t, ht => by
    rw [List.nil_append, List.nil_append, walk_cons w f t "." (by simp)]
    by_cases hdir : ∃ es, w.trailEnd t = .dir es
    · obtain ⟨es, hend⟩ := hdir
      rw [move_dot hend (Or.inl rfl)]
      dsimp only
      rw [walk, hend]
      refine .found ?_ fun hdirect => walk_last g hend hk hdirect
      rw [nodeAt?_place ht, hend]
    · rw [walk_cons w g t k (by simp), move_of_not_dir hdir, move_of_not_dir hdir]
      exact .error _
  | j :: ks, t, ht => by
    have hempty : ∀ k : String, (ks ++ [k]).isEmpty = false := fun k => by simp
    have hslash : ¬(q = .create ∧ ks ++ [k] = [""]) := by
      rintro ⟨-, h⟩
      have hmem : k ∈ [""] := h ▸ List.mem_append_right ks List.mem_cons_self
      exact hk.ne_empty (List.mem_singleton.mp hmem)
    rw [List.cons_append, List.cons_append, walk_cons w f t j (by simp),
      walk_cons w g t j hslash]
    cases hmove : w.move t j with
    | fault e => exact .error e
    | stay => exact continues_walk hk hfg ks ht
    | up => exact continues_walk hk hfg ks ht.tail
    | absent =>
      dsimp only
      rw [hempty, hempty]
      exact .error _
    | down n => exact continues_walk hk hfg ks (ht.down hmove)
    | jump s =>
      dsimp only
      rw [hempty, hempty, Bool.false_and, Bool.false_and, if_neg Bool.false_ne_true,
        if_neg Bool.false_ne_true, ← List.append_assoc, ← List.append_assoc]
      exact hfg _ _ (ht.jump _)

theorem continues_walkLinks {w : Workspace} {q : Purpose} {k : String} (hk : Proper k) :
    ∀ (n : Nat) (ks : List String) {t : Trail}, t.Valid w →
      Continues w q k (w.walkLinks .enter n t (ks ++ ["."])) (w.walkLinks q n t (ks ++ [k]))
  | 0, ks, _, ht => continues_walk hk (fun _ _ _ => .error _) ks ht
  | n + 1, ks, _, ht =>
    continues_walk hk (fun _ ks ht => continues_walkLinks hk n ks ht) ks ht

theorem continues_walkRoute (w : Workspace) (q : Purpose) {k : String} (hk : Proper k)
    (absolute : Bool) (ks : List String) :
    Continues w q k (w.walkRoute .enter absolute (ks ++ ["."]))
      (w.walkRoute q absolute (ks ++ [k])) := by
  rw [walkRoute, walkRoute]
  cases ht : trailFrom? [] w.root (if absolute then [] else w.home.reverse) with
  | none => exact .error _
  | some t => exact continues_walkLinks hk maxLinks ks (valid_of_trailFrom? _ (Trail.valid_nil w) ht).1

/-! ## Walks to directories -/

/-- A walk ends in the directory at a place. -/
def EndsIn (p : Place) (r : Except FileFault Target) : Prop :=
  ∃ es, r = .ok (.found p (.dir es))

theorem not_endsIn_error (p : Place) (e : FileFault) : ¬EndsIn p (.error e) := by
  rintro ⟨es, h⟩
  exact absurd h (by simp)

theorem not_endsIn_absent (p d : Place) (k : String) (b : Bool) (e : FileFault) :
    ¬EndsIn p (if b then .ok (.missing d k) else .error e) := by
  rintro ⟨es, h⟩
  cases b with
  | true => exact absurd h (by simp)
  | false => exact absurd h (by simp)

section Entering

variable {w : Workspace} {f : Trail → List String → Except FileFault Target} {p : Place}

/-- A walk that ends in a directory starts in one. -/
theorem exists_dir_of_endsIn {t : Trail} :
    ∀ {ks : List String}, EndsIn p (w.walk .enter f t ks) → ∃ es, w.trailEnd t = .dir es
  | [], ⟨es, h⟩ => by
    rw [walk] at h
    refine ⟨es, ?_⟩
    simp only [Except.ok.injEq, Target.found.injEq] at h
    exact h.2
  | k :: ks, h => by
    refine Classical.byContradiction fun hdir => ?_
    rw [walk_cons w f t k (by simp), move_of_not_dir hdir] at h
    exact not_endsIn_error p _ h

theorem endsIn_nil_iff {t : Trail} :
    EndsIn p (w.walk .enter f t []) ↔ t.place = p ∧ ∃ es, w.trailEnd t = .dir es := by
  rw [walk, EndsIn]
  simp only [Except.ok.injEq, Target.found.injEq, exists_and_left]

/-- The names that are more than a dot. -/
def solid (ks : List String) : List String := ks.filter fun k => k != "." && k != ""

theorem solid_append (ks ls : List String) : solid (ks ++ ls) = solid ks ++ solid ls :=
  List.filter_append ks ls

theorem solid_solid (ks : List String) : solid (solid ks) = solid ks :=
  List.filter_filter.trans (by simp only [Bool.and_self]; rfl)

/-- Dots and empty names may be left out of a walk to a directory. -/
theorem endsIn_walk_solid
    (hf : ∀ t ks, EndsIn p (f t ks) ↔ EndsIn p (f t (solid ks))) :
    ∀ (ks : List String) (t : Trail),
      EndsIn p (w.walk .enter f t ks) ↔ EndsIn p (w.walk .enter f t (solid ks))
  | [], t => Iff.rfl
  | k :: ks, t => by
    have ih := endsIn_walk_solid hf ks
    by_cases hk : k = "." ∨ k = ""
    · have hsolid : solid (k :: ks) = solid ks := by
        rcases hk with rfl | rfl <;> rfl
      rw [hsolid, walk_cons w f t k (by simp), ← ih]
      by_cases hdir : ∃ es, w.trailEnd t = .dir es
      · obtain ⟨es, hend⟩ := hdir
        rw [move_dot hend hk]
      · rw [move_of_not_dir hdir]
        exact iff_of_false (not_endsIn_error p _) fun h => hdir (exists_dir_of_endsIn h)
    · have hsolid : solid (k :: ks) = k :: solid ks := by
        refine List.filter_cons_of_pos ?_
        simpa only [Bool.and_eq_true, bne_iff_ne, ne_eq, not_or] using hk
      rw [hsolid, walk_cons w f t k (by simp), walk_cons w f t k (by simp)]
      cases w.move t k with
      | fault e => exact Iff.rfl
      | stay => exact ih t
      | up => exact ih t.tail
      | absent =>
        exact iff_of_false (not_endsIn_absent p _ _ _ _) (not_endsIn_absent p _ _ _ _)
      | down n => exact ih _
      | jump s =>
        have hnot : ∀ b, ¬((b && decide (Purpose.enter = .inspect)) = true) := by simp
        dsimp only
        rw [if_neg (hnot _), if_neg (hnot _), hf, hf _ (_ ++ solid ks), solid_append,
          solid_append, solid_solid]

/-- What comes before the end of a walk to a directory is a walk to a directory. -/
theorem exists_endsIn_of_append
    (hf : ∀ t ks ls p, EndsIn p (f t (ks ++ ls)) → ∃ p', EndsIn p' (f t (ks ++ ["."]))) :
    ∀ (ks ls : List String) (t : Trail) {p : Place}, EndsIn p (w.walk .enter f t (ks ++ ls)) →
      ∃ p', EndsIn p' (w.walk .enter f t (ks ++ ["."]))
  | [], ls, t, p, h => by
    obtain ⟨es, hend⟩ := exists_dir_of_endsIn h
    refine ⟨t.place, ?_⟩
    rw [List.nil_append, walk_cons w f t "." (by simp), move_dot hend (Or.inl rfl)]
    exact endsIn_nil_iff.mpr ⟨rfl, es, hend⟩
  | k :: ks, ls, t, p, h => by
    have ih := exists_endsIn_of_append hf ks ls
    rw [List.cons_append, walk_cons w f t k (by simp)] at h
    rw [List.cons_append, walk_cons w f t k (by simp)]
    cases hmove : w.move t k with
    | fault e => rw [hmove] at h; exact absurd h (not_endsIn_error p e)
    | stay => rw [hmove] at h; exact ih t h
    | up => rw [hmove] at h; exact ih t.tail h
    | absent => rw [hmove] at h; exact absurd h (not_endsIn_absent p _ _ _ _)
    | down n => rw [hmove] at h; exact ih _ h
    | jump s =>
      have hnot : ∀ b, ¬((b && decide (Purpose.enter = .inspect)) = true) := by simp
      rw [hmove] at h
      dsimp only at h ⊢
      rw [if_neg (hnot _), ← List.append_assoc] at h
      rw [if_neg (hnot _), ← List.append_assoc]
      exact hf _ _ _ _ h

end Entering

/-! ## Walks in two workspaces -/

/-- Directories and links that a move meets are there after a change that keeps them. -/
inductive KeptMove : Move → Move → Prop
  | fault (e : FileFault) (m : Move) : KeptMove (.fault e) m
  | absent (m : Move) : KeptMove .absent m
  | file (i : Nat) (m : Move) : KeptMove (.down (.file i)) m
  | stay : KeptMove .stay .stay
  | up : KeptMove .up .up
  | dir (es fs : List (String × Node)) : KeptMove (.down (.dir es)) (.down (.dir fs))
  | jump (s : String) : KeptMove (.jump s) (.jump s)

section Keeping

variable {w w' : Workspace}

/-- The directory at the end of a trail is one at the end of the same trail afterwards. -/
theorem Keeps.trailEnd (hw : Keeps w w') {t t' : Trail} (ht : t.Valid w) (ht' : t'.Valid w')
    (hplace : t'.place = t.place) {es : List (String × Node)} (hend : w.trailEnd t = .dir es) :
    ∃ fs, w'.trailEnd t' = .dir fs := by
  have hdir := nodeAt?_place ht
  rw [hend] at hdir
  obtain ⟨fs, hfs⟩ := hw.dir _ _ hdir
  rw [← hplace, nodeAt?_place ht', Option.some.injEq] at hfs
  exact ⟨fs, hfs⟩

theorem Keeps.move (hw : Keeps w w') {t t' : Trail} (ht : t.Valid w) (ht' : t'.Valid w')
    (hplace : t'.place = t.place) (k : String) : KeptMove (w.move t k) (w'.move t' k) := by
  by_cases hdir : ¬∃ es, w.trailEnd t = .dir es
  · rw [move_of_not_dir hdir]
    exact .fault _ _
  obtain ⟨es, hend⟩ := Classical.not_not.mp hdir
  obtain ⟨fs, hend'⟩ := hw.trailEnd ht ht' hplace hend
  have hes : w.nodeAt? (k :: t.place) = Node.child? k es :=
    nodeAt?_cons (by rw [nodeAt?_place ht, hend]) k
  have hfs : w'.nodeAt? (k :: t.place) = Node.child? k fs :=
    nodeAt?_cons (by rw [← hplace, nodeAt?_place ht', hend']) k
  by_cases hdot : k = "." ∨ k = ""
  · rw [move_dot hend hdot, move_dot hend' hdot]
    exact .stay
  by_cases hup : k = ".."
  · have hmove : w.move t k = .up := by
      rw [Workspace.move, hend]
      exact (if_neg hdot).trans (if_pos hup)
    have hmove' : w'.move t' k = .up := by
      rw [Workspace.move, hend']
      exact (if_neg hdot).trans (if_pos hup)
    rw [hmove, hmove']
    exact .up
  have hk : Proper k := ⟨fun h => hdot (.inl h), fun h => hdot (.inr h), hup⟩
  rw [move_dir hend hk, move_dir hend' hk]
  by_cases hlong : maxName < k.utf8ByteSize
  · rw [if_pos hlong]
    exact .fault _ _
  rw [if_neg hlong, if_neg hlong]
  cases hc : Node.child? k es with
  | none => exact .absent _
  | some n =>
    rw [hc] at hes
    cases n with
    | file i => exact .file i _
    | link s =>
      rw [← hfs, hw.link _ _ hes]
      exact .jump s
    | dir gs =>
      obtain ⟨gs', hgs'⟩ := hw.dir _ _ hes
      rw [← hfs, hgs']
      exact .dir gs gs'

/-- A walk to a directory leads to that directory after a change that keeps directories and
links. -/
theorem Keeps.endsIn_walk (hw : Keeps w w') {f g : Trail → List String → Except FileFault Target}
    {p : Place}
    (hfg : ∀ t t' ks, Trail.Valid w t → Trail.Valid w' t' → t'.place = t.place →
      EndsIn p (f t ks) → EndsIn p (g t' ks)) :
    ∀ (ks : List String) {t t' : Trail}, t.Valid w → t'.Valid w' → t'.place = t.place →
      EndsIn p (w.walk .enter f t ks) → EndsIn p (w'.walk .enter g t' ks)
  | [], t, t', ht, ht', hplace, h => by
    obtain ⟨hp, es, hend⟩ := endsIn_nil_iff.mp h
    exact endsIn_nil_iff.mpr ⟨hplace.trans hp, hw.trailEnd ht ht' hplace hend⟩
  | k :: ks, t, t', ht, ht', hplace, h => by
    have ih := @Keeps.endsIn_walk hw f g p hfg ks
    have hkept := hw.move ht ht' hplace k
    rw [walk_cons w f t k (by simp)] at h
    rw [walk_cons w' g t' k (by simp)]
    cases hmove : w.move t k with
    | fault e => rw [hmove] at h; exact absurd h (not_endsIn_error p e)
    | absent => rw [hmove] at h; exact absurd h (not_endsIn_absent p _ _ _ _)
    | stay =>
      rw [hmove] at h hkept
      cases hmove' : w'.move t' k <;> rw [hmove'] at hkept <;> cases hkept
      exact ih ht ht' hplace h
    | up =>
      rw [hmove] at h hkept
      cases hmove' : w'.move t' k <;> rw [hmove'] at hkept <;> cases hkept
      refine ih ht.tail ht'.tail ?_ h
      rw [Trail.place, Trail.place, List.map_tail, List.map_tail]
      exact congrArg List.tail hplace
    | down n =>
      rw [hmove] at h hkept
      obtain ⟨es, hend⟩ := exists_dir_of_endsIn h
      obtain rfl : n = .dir es := hend
      cases hmove' : w'.move t' k with
      | down m =>
        rw [hmove'] at hkept
        cases hkept with
        | dir _ fs =>
          refine ih (ht.down hmove) (ht'.down hmove') ?_ h
          exact congrArg (k :: ·) hplace
      | _ => rw [hmove'] at hkept; cases hkept
    | jump s =>
      have hnot : ∀ b, ¬((b && decide (Purpose.enter = .inspect)) = true) := by simp
      rw [hmove] at h hkept
      cases hmove' : w'.move t' k <;> rw [hmove'] at hkept <;> cases hkept
      dsimp only at h ⊢
      rw [if_neg (hnot _)] at h
      rw [if_neg (hnot _)]
      refine hfg _ _ _ (ht.jump _) (ht'.jump _) ?_ h
      cases (route s).absolute with
      | true => rfl
      | false => exact hplace

end Keeping

/-! ## Names that lead to a directory -/

/-- Names from the root or from the working directory lead to a directory. -/
def DirAt (w : Workspace) (absolute : Bool) (ks : List String) (p : Place) : Prop :=
  EndsIn p (w.walkRoute .enter absolute ks)

theorem endsIn_walkLinks_solid {w : Workspace} {p : Place} :
    ∀ (n : Nat) (t : Trail) (ks : List String),
      EndsIn p (w.walkLinks .enter n t ks) ↔ EndsIn p (w.walkLinks .enter n t (solid ks))
  | 0, t, ks => endsIn_walk_solid (fun _ _ => Iff.rfl) ks t
  | n + 1, t, ks => endsIn_walk_solid (endsIn_walkLinks_solid n) ks t

theorem dirAt_iff_solid {w : Workspace} {absolute : Bool} {ks : List String} {p : Place} :
    w.DirAt absolute ks p ↔ w.DirAt absolute (solid ks) p := by
  rw [DirAt, DirAt, walkRoute, walkRoute]
  cases trailFrom? [] w.root (if absolute then [] else w.home.reverse) with
  | none => exact Iff.rfl
  | some t => exact endsIn_walkLinks_solid maxLinks t ks

/-- Only the names that are more than a dot matter. -/
theorem dirAt_congr {w : Workspace} {absolute : Bool} {ks ls : List String}
    (h : solid ks = solid ls) {p : Place} : w.DirAt absolute ks p ↔ w.DirAt absolute ls p := by
  rw [dirAt_iff_solid, h, ← dirAt_iff_solid]

theorem dirAt_snoc_dot {w : Workspace} {absolute : Bool} {ks : List String} {p : Place} :
    w.DirAt absolute (ks ++ ["."]) p ↔ w.DirAt absolute ks p :=
  dirAt_congr (by rw [solid_append]; exact List.append_nil _)

theorem exists_endsIn_walkLinks {w : Workspace} :
    ∀ (n : Nat) (t : Trail) (ks ls : List String) (p : Place),
      EndsIn p (w.walkLinks .enter n t (ks ++ ls)) →
      ∃ p', EndsIn p' (w.walkLinks .enter n t (ks ++ ["."]))
  | 0, t, ks, ls, _, h =>
    exists_endsIn_of_append (fun _ _ _ p h => absurd h (not_endsIn_error p _)) ks ls t h
  | n + 1, t, ks, ls, _, h => exists_endsIn_of_append (exists_endsIn_walkLinks n) ks ls t h

/-- The names before others that lead to a directory lead to a directory. -/
theorem exists_dirAt_of_append {w : Workspace} {absolute : Bool} {ks ls : List String} {p : Place}
    (h : w.DirAt absolute (ks ++ ls) p) : ∃ p', w.DirAt absolute ks p' := by
  rw [DirAt, walkRoute] at h
  have hdot : ∃ p', w.DirAt absolute (ks ++ ["."]) p' := by
    simp only [DirAt, walkRoute]
    cases ht : trailFrom? [] w.root (if absolute then [] else w.home.reverse) with
    | none => rw [ht] at h; exact absurd h (not_endsIn_error p _)
    | some t => rw [ht] at h; exact exists_endsIn_walkLinks maxLinks t ks ls p h
  obtain ⟨p', hp'⟩ := hdot
  exact ⟨p', dirAt_snoc_dot.mp hp'⟩

theorem Keeps.endsIn_walkLinks {w w' : Workspace} (hw : Keeps w w') {p : Place} :
    ∀ (n : Nat) (t t' : Trail) (ks : List String), Trail.Valid w t → Trail.Valid w' t' →
      t'.place = t.place → EndsIn p (w.walkLinks .enter n t ks) →
      EndsIn p (w'.walkLinks .enter n t' ks)
  | 0, _, _, ks, ht, ht', hplace, h =>
    hw.endsIn_walk (fun _ _ _ _ _ _ h => absurd h (not_endsIn_error p _)) ks ht ht' hplace h
  | n + 1, _, _, ks, ht, ht', hplace, h =>
    hw.endsIn_walk (Keeps.endsIn_walkLinks hw n) ks ht ht' hplace h

/-- A trail to a directory is there after a change that keeps directories and links. -/
theorem Keeps.exists_trailFrom? {w w' : Workspace} (hw : Keeps w w') {ks : List String} {t : Trail}
    (ht : trailFrom? [] w.root ks = some t) {es : List (String × Node)}
    (hend : w.trailEnd t = .dir es) : ∃ t', trailFrom? [] w'.root ks = some t' := by
  obtain ⟨hvalid, hplace⟩ := valid_of_trailFrom? _ (Trail.valid_nil w) ht
  have hdir := nodeAt?_place hvalid
  rw [hend, hplace, nodeAt?] at hdir
  obtain ⟨fs, hfs⟩ := hw.dir _ _ hdir
  rw [nodeAt?, Trail.place, List.map_nil, List.append_nil, List.reverse_reverse] at hfs
  exact Workspace.exists_trailFrom? _ [] hfs

/-- Names lead to the same directory after a change that keeps directories and links. -/
theorem DirAt.keeps {w w' : Workspace} {absolute : Bool} {ks : List String} {p : Place}
    (h : w.DirAt absolute ks p) (hw : Keeps w w') : w'.DirAt absolute ks p := by
  rw [DirAt, walkRoute] at h
  cases ht : trailFrom? [] w.root (if absolute then [] else w.home.reverse) with
  | none => rw [ht] at h; exact absurd h (not_endsIn_error p _)
  | some t =>
    rw [ht] at h
    -- The walk starts in a directory, so that there is a trail to its place afterwards as well.
    obtain ⟨es, hend⟩ : ∃ es, w.trailEnd t = .dir es := exists_dir_of_endsIn h
    obtain ⟨t', ht'⟩ := hw.exists_trailFrom? ht hend
    obtain ⟨hvalid, hplace⟩ := valid_of_trailFrom? _ (Trail.valid_nil w) ht
    obtain ⟨hvalid', hplace'⟩ := valid_of_trailFrom? _ (Trail.valid_nil w') ht'
    rw [DirAt, walkRoute, hw.home, ht']
    exact hw.endsIn_walkLinks maxLinks t t' ks hvalid hvalid' (hplace'.trans hplace.symm) h

/-- One name further from a directory is a look at its entries. -/
theorem DirAt.walkRoute_snoc {w : Workspace} {absolute : Bool} {ks : List String} {d : Place}
    (h : w.DirAt absolute ks d) {k : String} (hk : Proper k) :
    ∃ es, w.nodeAt? d = some (.dir es) ∧
      ∀ q, Direct q k es → w.walkRoute q absolute (ks ++ [k]) = lastTarget d es k := by
  obtain ⟨es, hes⟩ := dirAt_snoc_dot.mpr h
  have hc := fun q => continues_walkRoute w q hk absolute ks
  simp only [hes] at hc
  refine ⟨es, ?_, fun q hdirect => ?_⟩
  · generalize w.walkRoute _ _ _ = r at hc
    cases hc .enter with
    | found hdir _ => exact hdir
  · have hq := hc q
    generalize w.walkRoute _ _ _ = r at hq ⊢
    cases hq with
    | found _ hlast => exact hlast hdirect

/-! ## Paths that end with a proper name -/

/-- A path whose last name is an entry of a directory. -/
structure Named (path k : String) : Prop where
  fault : pathFault? path = none
  slash : (route path).slash = false
  last : (route path).names.getLast? = some k
  proper : Proper k

/-- The last name of a path stands in the directory at a place. -/
structure StandsIn (w : Workspace) (path k : String) (d : Place) : Prop extends Named path k where
  dir : w.DirAt (route path).absolute (route path).names.dropLast d

theorem Named.names_eq {path k : String} (h : Named path k) :
    (route path).names = (route path).names.dropLast ++ [k] := by
  have hne : (route path).names ≠ [] := by
    intro hnil
    have hlast := h.last
    rw [hnil] at hlast
    exact absurd hlast (by simp)
  have hlast : (route path).names.getLast hne = k :=
    List.getLast_of_getLast?_eq_some h.last
  rw [← hlast, List.dropLast_concat_getLast]

theorem Named.resolve_eq {path k : String} (h : Named path k) (w : Workspace) (q : Purpose) :
    w.resolve q path =
      w.walkRoute q (route path).absolute ((route path).names.dropLast ++ [k]) := by
  rw [resolve, h.fault]
  dsimp only
  rw [Route.steps, h.slash, if_neg Bool.false_ne_true, ← h.names_eq]

/-- What a path leads to is an entry of the directory that it stands in. -/
theorem StandsIn.resolve_eq {w : Workspace} {path k : String} {d : Place}
    (h : StandsIn w path k d) {es : List (String × Node)} (hes : w.nodeAt? d = some (.dir es))
    {q : Purpose} (hdirect : Direct q k es) :
    w.resolve q path = lastTarget d es k := by
  obtain ⟨fs, hfs, hlast⟩ := h.dir.walkRoute_snoc h.proper
  obtain rfl : fs = es := by
    rw [hes, Option.some.injEq, Node.dir.injEq] at hfs
    exact hfs.symm
  rw [h.toNamed.resolve_eq, hlast q hdirect]

/-- The place a path stands in is a directory. -/
theorem StandsIn.exists_dir {w : Workspace} {path k : String} {d : Place}
    (h : StandsIn w path k d) : ∃ es, w.nodeAt? d = some (.dir es) := by
  obtain ⟨es, hes, -⟩ := h.dir.walkRoute_snoc h.proper
  exact ⟨es, hes⟩

/-- The directory that the names before the last lead to is the parent. -/
theorem DirAt.resolveParent_eq {w : Workspace} {path k : String} {d : Place}
    (h : w.DirAt (route path).absolute (route path).names.dropLast d)
    (hfault : pathFault? path = none) (hlast : (route path).names.getLast? = some k)
    (hk : Proper k) : w.resolveParent path = .ok (d, .name k) := by
  obtain ⟨fs, hfs⟩ := dirAt_snoc_dot.mpr h
  have hspecial : ¬(k = "." ∨ k = "..") := fun h => h.elim hk.ne_dot hk.ne_up
  rw [resolveParent, hfault]
  dsimp only
  rw [hfs]
  dsimp only
  rw [hlast]
  dsimp only
  rw [if_neg hspecial]

theorem StandsIn.resolveParent_eq {w : Workspace} {path k : String} {d : Place}
    (h : StandsIn w path k d) : w.resolveParent path = .ok (d, .name k) :=
  h.dir.resolveParent_eq h.fault h.last h.proper

/-- A last name that `resolveParent` gives is one, in the directory that it gives. -/
theorem resolveParent_eq_name {w : Workspace} {path k : String} {d : Place}
    (h : w.resolveParent path = .ok (d, .name k)) :
    pathFault? path = none ∧ (route path).names = (route path).names.dropLast ++ [k] ∧ Proper k ∧
      w.DirAt (route path).absolute (route path).names.dropLast d := by
  rw [resolveParent] at h
  cases hfault : pathFault? path with
  | some e => rw [hfault] at h; exact absurd h (by simp)
  | none =>
    rw [hfault] at h
    dsimp only at h
    generalize hup : w.walkRoute .enter _ _ = r at h
    match r, h with
    | .ok (.found p n), h =>
      cases hlast : (route path).names.getLast? with
      | none => rw [hlast] at h; exact absurd h (by simp)
      | some l =>
        rw [hlast] at h
        simp only [Except.ok.injEq, Prod.mk.injEq] at h
        obtain ⟨rfl, hname⟩ := h
        by_cases hspecial : l = "." ∨ l = ".."
        · rw [if_pos hspecial] at hname
          exact absurd hname (by simp)
        · rw [if_neg hspecial, LastName.name.injEq] at hname
          subst hname
          rw [not_or] at hspecial
          obtain ⟨ks, hks⟩ := List.getLast?_eq_some_iff.mp hlast
          have hmem : l ∈ (route path).names := hks ▸ List.mem_append_right ks List.mem_cons_self
          have hne : l ≠ "" := by
            rintro rfl
            exact absurd (List.mem_filter.mp hmem).2 (by simp)
          have hproper : Proper l := ⟨hspecial.1, hne, hspecial.2⟩
          refine ⟨rfl, by rw [hks, List.dropLast_concat], hproper, dirAt_snoc_dot.mp ?_⟩
          have hc := continues_walkRoute w .enter hproper (route path).absolute
            (route path).names.dropLast
          rw [hup] at hc
          cases hc with
          | @found p es _ _ _ => exact ⟨es, hup⟩

/-- A path that stands in no directory leads nowhere. -/
theorem Named.resolve_eq_error {path k : String} (h : Named path k) {w : Workspace}
    (hd : ¬∃ d, StandsIn w path k d) : ∃ e, ∀ q, w.resolve q path = .error e := by
  have hc := fun q => continues_walkRoute w q h.proper (route path).absolute
    (route path).names.dropLast
  simp only [← h.resolve_eq] at hc
  cases hup : w.walkRoute .enter (route path).absolute ((route path).names.dropLast ++ ["."]) with
  | error e =>
    refine ⟨e, fun q => ?_⟩
    have hq := hc q
    rw [hup] at hq
    generalize w.resolve q path = r at hq ⊢
    cases hq with
    | error _ => rfl
  | ok target =>
    have hq := hc .enter
    rw [hup] at hq
    cases hq with
    | @found p es _ _ _ => exact absurd ⟨p, h, dirAt_snoc_dot.mp ⟨es, hup⟩⟩ hd

theorem StandsIn.keeps {w w' : Workspace} {path k : String} {d : Place}
    (h : StandsIn w path k d) (hw : Keeps w w') : StandsIn w' path k d :=
  ⟨h.toNamed, h.dir.keeps hw⟩

end Workspace
end SinkAudit
