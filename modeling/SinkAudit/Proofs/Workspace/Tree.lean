import SinkAudit.Workspace.Basic

/-!
# Changing one entry of a tree

Every operation that writes changes the entries of one directory at one name.  What is at another
place stays the same, except that a directory above the change has changed inside; so at every other
place the tree before and the tree after are *alike* (`Node.Alike`): the same node, or two
directories.

* `Node.alike_get?_modify`: a change at one name, seen from all other places.
* `Workspace.ChangesAt`: the same for workspaces.
* `Workspace.changesAt_setEntry`, `changesAt_erase`: the two changes that occur.
* `Workspace.Keeps`: directories and links stay where they are, so ways through them stay open.
-/

namespace SinkAudit

namespace Node

/-! ## Entries -/

@[simp] theorem child?_nil (k : String) : child? k [] = none := rfl

theorem child?_cons (k l : String) (n : Node) (es : List (String × Node)) :
    child? k ((l, n) :: es) = if l = k then some n else child? k es := rfl

/-- An entry that was inserted is found. -/
@[simp] theorem child?_insert_self (k : String) (n : Node) (es : List (String × Node)) :
    child? k (insert k n es) = some n := by
  induction es with
  | nil => rw [insert, child?_cons, if_pos rfl]
  | cons e es ih =>
    obtain ⟨l, m⟩ := e
    rw [insert]
    split
    · rw [child?_cons, if_pos rfl]
    · rename_i hl
      split
      · rw [child?_cons, if_pos rfl]
      · rw [child?_cons, if_neg hl, ih]

/-- Inserting an entry leaves the others alone. -/
theorem child?_insert_of_ne {k l : String} (h : l ≠ k) (n : Node) (es : List (String × Node)) :
    child? l (insert k n es) = child? l es := by
  induction es with
  | nil => rw [insert, child?_cons, if_neg h.symm]
  | cons e es ih =>
    obtain ⟨j, m⟩ := e
    rw [insert]
    split
    · rename_i hj
      rw [child?_cons, if_neg h.symm, child?_cons, if_neg (fun he => h (he.symm.trans hj))]
    · split
      · rw [child?_cons, if_neg h.symm]
      · rw [child?_cons, child?_cons, ih]

/-- An entry that was removed is not found. -/
@[simp] theorem child?_erase_self (k : String) (es : List (String × Node)) :
    child? k (erase k es) = none := by
  induction es with
  | nil => rfl
  | cons e es ih =>
    obtain ⟨l, m⟩ := e
    rw [erase, List.filter_cons]
    split
    · rename_i hl
      rw [child?_cons, if_neg (by simpa using hl)]
      exact ih
    · exact ih

/-- Removing an entry leaves the others alone. -/
theorem child?_erase_of_ne {k l : String} (h : l ≠ k) (es : List (String × Node)) :
    child? l (erase k es) = child? l es := by
  induction es with
  | nil => rfl
  | cons e es ih =>
    obtain ⟨j, m⟩ := e
    rw [erase, List.filter_cons]
    split
    · rw [child?_cons, child?_cons]
      exact ite_congr rfl (fun _ => rfl) fun _ => ih
    · rename_i hj
      have hjk : j = k := by simpa using hj
      rw [child?_cons, if_neg (fun he => h (he.symm.trans hjk))]
      exact ih

/-- Changing the nodes with one name changes what is found there. -/
theorem child?_map (f : Node → Node) (k l : String) (es : List (String × Node)) :
    child? l (es.map fun e => if e.1 = k then (k, f e.2) else e) =
      if l = k then (child? l es).map f else child? l es := by
  induction es with
  | nil => simp
  | cons e es ih =>
    obtain ⟨j, m⟩ := e
    rw [List.map_cons]
    by_cases hj : j = k
    · simp only [if_pos hj]
      rw [child?_cons, child?_cons, ih]
      by_cases hl : l = k
      · rw [if_pos hl.symm, if_pos hl, if_pos (hj.trans hl.symm), Option.map_some]
      · rw [if_neg (Ne.symm hl), if_neg hl, if_neg hl, if_neg (fun he => hl (he.symm.trans hj))]
    · simp only [if_neg hj]
      rw [child?_cons, child?_cons, ih]
      by_cases hl : l = k
      · have hjl : j ≠ l := fun he => hj (he.trans hl)
        rw [if_pos hl, if_neg hjl, if_neg hjl, if_pos hl]
      · rw [if_neg hl, if_neg hl]

/-! ## Nodes below a node -/

@[simp] theorem get?_nil (n : Node) : n.get? [] = some n := by
  cases n <;> rfl

theorem get?_dir_cons (es : List (String × Node)) (k : String) (ks : List String) :
    (dir es).get? (k :: ks) = (child? k es).bind fun n => n.get? ks := rfl

@[simp] theorem get?_file_cons (i : Nat) (k : String) (ks : List String) :
    (file i).get? (k :: ks) = none := rfl

@[simp] theorem get?_link_cons (t k : String) (ks : List String) :
    (link t).get? (k :: ks) = none := rfl

/-- The way down can be gone in two parts. -/
theorem get?_append (n : Node) (ks ls : List String) :
    n.get? (ks ++ ls) = (n.get? ks).bind fun m => m.get? ls := by
  induction ks generalizing n with
  | nil => simp
  | cons k ks ih =>
    cases n with
    | file i => rfl
    | link t => rfl
    | dir es =>
      rw [List.cons_append, get?_dir_cons, get?_dir_cons]
      cases child? k es with
      | none => rfl
      | some m => exact ih m

/-- The entry of a directory is the node below it. -/
theorem get?_snoc {n : Node} {ks : List String} {es : List (String × Node)}
    (h : n.get? ks = some (dir es)) (k : String) : n.get? (ks ++ [k]) = child? k es := by
  rw [get?_append, h, Option.bind_some, get?_dir_cons]
  cases child? k es with
  | none => rfl
  | some m => rw [Option.bind_some, get?_nil]

/-! ## Changes -/

/-- The same node, or two directories. -/
def Alike (a b : Option Node) : Prop :=
  a = b ∨ ∃ es fs, a = some (dir es) ∧ b = some (dir fs)

theorem Alike.refl (a : Option Node) : Alike a a := Or.inl rfl

theorem Alike.symm {a b : Option Node} (h : Alike a b) : Alike b a := by
  rcases h with h | ⟨es, fs, ha, hb⟩
  · exact Or.inl h.symm
  · exact Or.inr ⟨fs, es, hb, ha⟩

theorem Alike.trans {a b c : Option Node} (h : Alike a b) (h' : Alike b c) : Alike a c := by
  rcases h with rfl | ⟨es, fs, ha, hb⟩
  · exact h'
  · rcases h' with rfl | ⟨fs', gs, -, hc⟩
    · exact Or.inr ⟨es, fs, ha, hb⟩
    · exact Or.inr ⟨es, gs, ha, hc⟩

/-- Nothing is below the node, if there is one. -/
def Bare (a : Option Node) : Prop :=
  ∀ n, a = some n → ∀ k ks, n.get? (k :: ks) = none

theorem bare_none : Bare none := fun _ h => absurd h (by simp)

theorem bare_file (i : Nat) : Bare (some (file i)) := by
  intro n h k ks
  rw [← Option.some.inj h]
  rfl

theorem bare_dir_nil : Bare (some (dir [])) := by
  intro n h k ks
  rw [← Option.some.inj h]
  rfl

/-- Nothing is below what is no directory. -/
theorem bare_of_ne_dir {a : Option Node} (h : ∀ es, a ≠ some (dir es)) : Bare a := by
  rintro n rfl k ks
  cases n with
  | file i => rfl
  | link s => rfl
  | dir es => exact absurd rfl (h es)

/-- The change is at one name only. -/
def OnlyAt (k : String) (f : List (String × Node) → List (String × Node)) : Prop :=
  ∀ es l, l ≠ k → child? l (f es) = child? l es

theorem onlyAt_insert (k : String) (n : Node) : OnlyAt k (insert k n) :=
  fun es _ hl => child?_insert_of_ne hl n es

theorem onlyAt_erase (k : String) : OnlyAt k (erase k) :=
  fun es _ hl => child?_erase_of_ne hl es

/-- Below a directory on the way to a change. -/
theorem get?_modify_dir_cons (f : List (String × Node) → List (String × Node))
    (es : List (String × Node)) (k l : String) (ks ls : List String) :
    ((dir es).modify f (k :: ks)).get? (l :: ls) =
      if l = k then (child? l es).bind fun m => (m.modify f ks).get? ls
      else (dir es).get? (l :: ls) := by
  have hmap := child?_map (fun m => m.modify f ks) k l es
  rw [modify, get?_dir_cons, get?_dir_cons]
  simp only [hmap]
  split
  · cases child? l es <;> rfl
  · rfl

/-- The directory itself after its entries have been changed. -/
theorem get?_modify_self {f : List (String × Node) → List (String × Node)} :
    ∀ {n : Node} {ps : List String} {es : List (String × Node)}, n.get? ps = some (dir es) →
      (n.modify f ps).get? ps = some (dir (f es))
  | dir fs, [], es, h => by
    rw [get?_nil] at h
    obtain rfl : fs = es := by injection Option.some.inj h
    rfl
  | dir fs, k :: ps, es, h => by
    rw [get?_dir_cons] at h
    rw [get?_modify_dir_cons, if_pos rfl]
    cases hc : child? k fs with
    | none => rw [hc] at h; exact absurd h (by simp)
    | some m =>
      rw [hc] at h
      exact get?_modify_self h
  | file i, [], es, h => by simp at h
  | link t, [], es, h => by simp at h
  | file i, k :: ps, es, h => by simp at h
  | link t, k :: ps, es, h => by simp at h

/-- What is at all other places after a change at one name of one directory.  The induction is on
the way to that directory; a place either leaves this way, where nothing changes, or lies on it,
where there is a directory before and after, or goes beyond the changed name, where nothing is. -/
theorem alike_get?_modify {f : List (String × Node) → List (String × Node)} {k : String}
    (hf : OnlyAt k f) :
    ∀ (ps qs : List String) (n : Node), Bare (n.get? (ps ++ [k])) →
      Bare ((n.modify f ps).get? (ps ++ [k])) → qs ≠ ps ++ [k] →
        Alike (n.get? qs) ((n.modify f ps).get? qs)
  | [], [], dir es, _, _, _ => Or.inr ⟨es, f es, rfl, rfl⟩
  | [], q :: qs, dir es, hold, hnew, hne => by
    rw [get?_snoc (get?_nil _)] at hold
    rw [modify, get?_snoc (get?_nil _)] at hnew
    rw [modify, get?_dir_cons, get?_dir_cons]
    by_cases hq : q = k
    · -- beyond the changed name
      subst hq
      have hbelow : ∀ a : Option Node, Bare a → (a.bind fun m => m.get? qs) = none := by
        intro a ha
        cases ha' : a with
        | none => rfl
        | some m =>
          cases qs with
          | nil => exact absurd rfl hne
          | cons r rs => exact ha m ha' r rs
      rw [hbelow _ hold, hbelow _ hnew]
      exact Alike.refl _
    · rw [hf es q hq]
      exact Alike.refl _
  | p :: ps, [], dir es, _, _, _ => Or.inr ⟨es, _, rfl, rfl⟩
  | p :: ps, q :: qs, dir es, hold, hnew, hne => by
    rw [List.cons_append, get?_dir_cons] at hold
    rw [List.cons_append, get?_modify_dir_cons, if_pos rfl] at hnew
    rw [get?_modify_dir_cons]
    by_cases hq : q = p
    · subst hq
      rw [if_pos rfl, get?_dir_cons]
      cases hc : child? q es with
      | none => exact Alike.refl _
      | some m =>
        rw [hc] at hold hnew
        exact alike_get?_modify hf ps qs m hold hnew fun h => hne (by rw [h, List.cons_append])
    · rw [if_neg hq]
      exact Alike.refl _
  | [], _, file _, _, _, _ => Alike.refl _
  | [], _, link _, _, _, _ => Alike.refl _
  | _ :: _, _, file _, _, _, _ => Alike.refl _
  | _ :: _, _, link _, _, _, _ => Alike.refl _

end Node

namespace Workspace

/-- The entry of a directory is the node at the place below it. -/
theorem nodeAt?_cons {w : Workspace} {d : Place} {es : List (String × Node)}
    (h : w.nodeAt? d = some (.dir es)) (k : String) : w.nodeAt? (k :: d) = Node.child? k es := by
  rw [nodeAt?, List.reverse_cons]
  exact Node.get?_snoc h k

/-! ## Changes at one place -/

/-- Two workspaces differ in the tree at one place only, up to what directories hold. -/
structure ChangesAt (p : Place) (w w' : Workspace) : Prop where
  home : w'.home = w.home
  alike : ∀ q, q ≠ p → Node.Alike (w.nodeAt? q) (w'.nodeAt? q)

theorem changesAt_modifyAt {w : Workspace} {d : Place} {k : String}
    {f : List (String × Node) → List (String × Node)} (hf : Node.OnlyAt k f)
    (hold : Node.Bare (w.nodeAt? (k :: d))) (hnew : Node.Bare ((w.modifyAt d f).nodeAt? (k :: d))) :
    ChangesAt (k :: d) w (w.modifyAt d f) := by
  refine ⟨rfl, fun q hq => ?_⟩
  rw [nodeAt?, List.reverse_cons] at hold hnew
  refine Node.alike_get?_modify hf d.reverse q.reverse w.root hold hnew fun h => hq ?_
  rw [← List.reverse_cons] at h
  exact List.reverse_inj.mp h

theorem nodeAt?_modifyAt {w : Workspace} {d : Place} {es : List (String × Node)}
    (h : w.nodeAt? d = some (.dir es)) (f : List (String × Node) → List (String × Node))
    (k : String) : (w.modifyAt d f).nodeAt? (k :: d) = Node.child? k (f es) := by
  have hd : (w.modifyAt d f).nodeAt? d = some (.dir (f es)) := Node.get?_modify_self h
  exact nodeAt?_cons hd k

@[simp] theorem contents_modifyAt (w : Workspace) (d : Place)
    (f : List (String × Node) → List (String × Node)) :
    (w.modifyAt d f).contents = w.contents := rfl

@[simp] theorem contents_setEntry (w : Workspace) (d : Place) (k : String) (n : Node) :
    (w.setEntry d k n).contents = w.contents := rfl

theorem nodeAt?_setEntry_self {w : Workspace} {d : Place} {es : List (String × Node)}
    (h : w.nodeAt? d = some (.dir es)) (k : String) (n : Node) :
    (w.setEntry d k n).nodeAt? (k :: d) = some n := by
  rw [setEntry, nodeAt?_modifyAt h, Node.child?_insert_self]

/-- Giving an entry a node with nothing below, where nothing was below, is a change at one place. -/
theorem changesAt_setEntry {w : Workspace} {d : Place} {es : List (String × Node)}
    (h : w.nodeAt? d = some (.dir es)) {k : String} {n : Node}
    (hold : Node.Bare (w.nodeAt? (k :: d))) (hnew : Node.Bare (some n)) :
    ChangesAt (k :: d) w (w.setEntry d k n) := by
  refine changesAt_modifyAt (Node.onlyAt_insert k n) hold ?_
  rw [nodeAt?_modifyAt h, Node.child?_insert_self]
  exact hnew

theorem nodeAt?_erase_self {w : Workspace} {d : Place} {es : List (String × Node)}
    (h : w.nodeAt? d = some (.dir es)) (k : String) :
    (w.modifyAt d (Node.erase k)).nodeAt? (k :: d) = none := by
  rw [nodeAt?_modifyAt h, Node.child?_erase_self]

/-- Removing an entry with nothing below is a change at one place. -/
theorem changesAt_erase {w : Workspace} {d : Place} {es : List (String × Node)}
    (h : w.nodeAt? d = some (.dir es)) {k : String} (hold : Node.Bare (w.nodeAt? (k :: d))) :
    ChangesAt (k :: d) w (w.modifyAt d (Node.erase k)) := by
  refine changesAt_modifyAt (Node.onlyAt_erase k) hold ?_
  rw [nodeAt?_erase_self h]
  exact Node.bare_none

/-- A place that holds no directory holds the same after a change elsewhere. -/
theorem ChangesAt.nodeAt?_eq {p q : Place} {w w' : Workspace} (h : ChangesAt p w w') (hq : q ≠ p)
    (hdir : ∀ es, w.nodeAt? q ≠ some (.dir es)) : w'.nodeAt? q = w.nodeAt? q := by
  rcases h.alike q hq with he | ⟨es, -, he, -⟩
  · exact he.symm
  · exact absurd he (hdir es)

/-- A file that is at a place after a change elsewhere was there before. -/
theorem ChangesAt.nodeAt?_eq_file {p q : Place} {w w' : Workspace} (h : ChangesAt p w w')
    (hq : q ≠ p) {i : Nat} (hf : w'.nodeAt? q = some (.file i)) : w.nodeAt? q = some (.file i) := by
  rcases h.alike q hq with he | ⟨-, fs, -, he⟩
  · rw [he, hf]
  · rw [hf] at he
    exact absurd he (by simp)

/-! ## What is kept -/

/-- Directories and links stay where they are. -/
structure Keeps (w w' : Workspace) : Prop where
  home : w'.home = w.home
  dir : ∀ p es, w.nodeAt? p = some (.dir es) → ∃ fs, w'.nodeAt? p = some (.dir fs)
  link : ∀ p t, w.nodeAt? p = some (.link t) → w'.nodeAt? p = some (.link t)

theorem Keeps.refl (w : Workspace) : Keeps w w :=
  ⟨rfl, fun _ es h => ⟨es, h⟩, fun _ _ h => h⟩

theorem Keeps.trans {w w' w'' : Workspace} (h : Keeps w w') (h' : Keeps w' w'') : Keeps w w'' := by
  refine ⟨h'.home.trans h.home, fun p es hp => ?_, fun p t hp => h'.link p t (h.link p t hp)⟩
  obtain ⟨fs, hfs⟩ := h.dir p es hp
  exact h'.dir p fs hfs

/-- A workspace in which only the contents of files have changed. -/
theorem keeps_of_root_eq {w w' : Workspace} (hroot : w'.root = w.root) (hhome : w'.home = w.home) :
    Keeps w w' := by
  have hnode : ∀ p, w'.nodeAt? p = w.nodeAt? p := fun p => by rw [nodeAt?, nodeAt?, hroot]
  refine ⟨hhome, fun p es hp => ⟨es, ?_⟩, fun p t hp => ?_⟩
  · rw [hnode, hp]
  · rw [hnode, hp]

/-- Directories and links are kept where there are alike nodes in their places. -/
theorem keeps_of_alike {w w' : Workspace} (hhome : w'.home = w.home)
    (h : ∀ q n, w.nodeAt? q = some n → (∀ i, n ≠ .file i) →
      Node.Alike (w.nodeAt? q) (w'.nodeAt? q)) : Keeps w w' := by
  refine ⟨hhome, fun q es hq => ?_, fun q t hq => ?_⟩
  · rcases h q _ hq (by simp) with he | ⟨-, fs, -, he⟩
    · exact ⟨es, he ▸ hq⟩
    · exact ⟨fs, he⟩
  · rcases h q _ hq (by simp) with he | ⟨es, -, he, -⟩
    · exact he ▸ hq
    · rw [hq] at he
      exact absurd he (by simp)

/-- A change where there is no directory and no link keeps those that there are. -/
theorem ChangesAt.keeps {p : Place} {w w' : Workspace} (h : ChangesAt p w w')
    (hp : w.nodeAt? p = none ∨ ∃ i, w.nodeAt? p = some (.file i)) : Keeps w w' := by
  refine keeps_of_alike h.home fun q n hq hn => h.alike q ?_
  rintro rfl
  rcases hp with hp | ⟨i, hp⟩
  · rw [hq] at hp
    exact absurd hp (by simp)
  · rw [hq] at hp
    exact hn i (Option.some.inj hp)

end Workspace

end SinkAudit
