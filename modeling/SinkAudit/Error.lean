/-!
# Errors

What can go wrong in an audit, by cause.  The wording is in `Error.message` alone.  An error that the
program reports ends it with one exit code; an overflow stops it where it is, with another.

Faults of the file system carry their number where the operating system gives one.

* `FileFault`, `Error`: the causes.
* `gather`: an operation that can fail, done for every member of a list.
* `gather_eq_ok`, `exists_of_gather`: the whole succeeds if it does for every member, and only then.
* `gather_eq_error`, `exists_of_gather_error`: it fails if it does for one, and in the way of one.
-/

namespace SinkAudit

/-- Why a file operation failed. -/
inductive FileFault where
  | notFound
  | busy
  | exists
  | notDirectory
  | isDirectory
  | invalidArgument
  | nameTooLong
  | notEmpty
  | linkLoop
  | nulInName
  | notText
  | other (text : String)
  deriving DecidableEq, Repr, Inhabited

/-- The wording of a file fault. -/
def FileFault.message : FileFault → String
  | notFound => "No such file or directory (os error 2)"
  | busy => "Device or resource busy (os error 16)"
  | .exists => "File exists (os error 17)"
  | notDirectory => "Not a directory (os error 20)"
  | isDirectory => "Is a directory (os error 21)"
  | invalidArgument => "Invalid argument (os error 22)"
  | nameTooLong => "File name too long (os error 36)"
  | notEmpty => "Directory not empty (os error 39)"
  | linkLoop => "Too many levels of symbolic links (os error 40)"
  | nulInName => "file name contained an unexpected NUL byte"
  | notText => "stream did not contain valid UTF-8"
  | other text => text

/-- Why an operation of the library failed. -/
inductive Error where
  | directoryNotFound (path : String)
  | unknownRule (id : String)
  | missingCredential (name : String)
  | config (text : String)
  | invalidPattern (rule pattern : String)
  | rule (id text : String)
  | cache (path text : String)
  | output (text : String)
  | file (fault : FileFault)
  | json (text : String)
  | toml (text : String)
  | internal (text : String)
  /-- A sum of words that is no word. -/
  | overflow
  deriving DecidableEq, Repr, Inhabited

namespace Error

/-- The wording of an error. -/
def message : Error → String
  | directoryNotFound path => "Directory '" ++ path ++ "' does not exist"
  | unknownRule id => "Unknown rule: " ++ id
  | missingCredential name =>
    name ++ " not found in environment. Set it via 'export " ++ name ++ "=...' or a .env file"
  | config text => "Configuration error: " ++ text
  | invalidPattern id pattern => "Rule error (" ++ id ++ "): invalid pattern '" ++ pattern ++ "'"
  | .rule id text => "Rule error (" ++ id ++ "): " ++ text
  | cache path text => "Cache error (" ++ path ++ "): " ++ text
  | output text => "Output error: " ++ text
  | file fault => "IO error: " ++ fault.message
  | json text => "JSON error: " ++ text
  | toml text => "TOML parse error: " ++ text
  | internal text => "Internal error: " ++ text
  | overflow => "attempt to add with overflow"

/-- The exit code of a program that ends with an error. -/
def exitCode : Error → Nat
  | overflow => 101
  | _ => 2

end Error

/-- What an operation gives for the members of a list, put together.  The first error is that of the
whole. -/
def gather {ε α β : Type} (f : α → Except ε (List β)) : List α → Except ε (List β)
  | [] => .ok []
  | x :: xs =>
    match f x with
    | .error e => .error e
    | .ok ys => (gather f xs).map (ys ++ ·)

section

variable {ε α β : Type} {f : α → Except ε (List β)} {g : α → List β} {xs : List α}

/-- If the operation succeeds for every member, so does the whole. -/
theorem gather_eq_ok (h : ∀ x ∈ xs, f x = .ok (g x)) : gather f xs = .ok (xs.flatMap g) := by
  induction xs with
  | nil => rfl
  | cons x xs ih =>
    rw [gather, h x List.mem_cons_self, ih fun y hy => h y (List.mem_cons_of_mem x hy)]
    rfl

theorem gather_cons_eq_ok {x : α} {ys : List β} (h : gather f (x :: xs) = .ok ys) :
    ∃ zs rest, f x = .ok zs ∧ gather f xs = .ok rest ∧ ys = zs ++ rest := by
  rw [gather] at h
  cases hx : f x with
  | error e =>
    rw [hx] at h
    cases h
  | ok zs =>
    rw [hx] at h
    cases hxs : gather f xs with
    | error e =>
      rw [hxs] at h
      cases h
    | ok rest =>
      rw [hxs] at h
      cases h
      exact ⟨zs, rest, rfl, rfl, rfl⟩

/-- If the whole succeeds, so does the operation for every member. -/
theorem exists_of_gather {ys : List β} (h : gather f xs = .ok ys) :
    ∃ g : α → List β, (∀ x ∈ xs, f x = .ok (g x)) ∧ ys = xs.flatMap g := by
  have hfound : ∀ {x zs}, f x = .ok zs → (f x).toOption.getD [] = zs := by
    intro x zs hx
    rw [hx]
    rfl
  refine ⟨fun x => (f x).toOption.getD [], ?_⟩
  induction xs generalizing ys with
  | nil => exact ⟨fun x hx => absurd hx List.not_mem_nil, (Except.ok.inj h).symm⟩
  | cons x xs ih =>
    obtain ⟨zs, rest, hx, hxs, rfl⟩ := gather_cons_eq_ok h
    obtain ⟨hall, rfl⟩ := ih hxs
    refine ⟨fun y hy => ?_, ?_⟩
    · rcases List.mem_cons.mp hy with rfl | hy
      · exact hx.trans (congrArg Except.ok (hfound hx).symm)
      · exact hall y hy
    · rw [List.flatMap_cons, hfound hx]

/-- The whole fails as some member does. -/
theorem exists_of_gather_error {e : ε} (h : gather f xs = .error e) : ∃ x ∈ xs, f x = .error e := by
  induction xs with
  | nil => cases h
  | cons x xs ih =>
    cases hx : f x with
    | error e' =>
      rw [gather, hx] at h
      cases h
      exact ⟨x, List.mem_cons_self, hx⟩
    | ok zs =>
      cases hxs : gather f xs with
      | error e' =>
        rw [gather, hx, hxs] at h
        cases h
        obtain ⟨y, hy, hfy⟩ := ih hxs
        exact ⟨y, List.mem_cons_of_mem x hy, hfy⟩
      | ok rest =>
        rw [gather, hx, hxs] at h
        cases h

theorem gather_map {γ : Type} (h : γ → α) (zs : List γ) :
    gather f (zs.map h) = gather (fun z => f (h z)) zs := by
  induction zs with
  | nil => rfl
  | cons z zs ih => rw [List.map_cons, gather, gather, ih]

/-- If there is one way to fail, the whole fails in that way as soon as one member does. -/
theorem gather_eq_error {e : ε} (h : ∀ x ∈ xs, f x = .ok (g x) ∨ f x = .error e)
    (hfail : ∃ x ∈ xs, f x = .error e) : gather f xs = .error e := by
  induction xs with
  | nil =>
    obtain ⟨x, hx, -⟩ := hfail
    exact absurd hx List.not_mem_nil
  | cons x xs ih =>
    rw [gather]
    rcases h x List.mem_cons_self with hok | herror
    · obtain ⟨y, hy, hfy⟩ := hfail
      rcases List.mem_cons.mp hy with rfl | hy
      · rw [hfy]
      · rw [hok, ih (fun z hz => h z (List.mem_cons_of_mem x hz)) ⟨y, hy, hfy⟩]
        rfl
    · rw [herror]

end

end SinkAudit
