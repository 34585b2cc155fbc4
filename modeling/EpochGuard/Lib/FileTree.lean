import EpochGuard.Lib.Checked
import Mathlib.Logic.Function.Basic

/-!
# A tree of files

Directories, files and symbolic links by their absolute paths, the resolution of
a path through links, and the system calls that read the tree or make an entry
that did not exist before. A call may also fail for reasons outside of the tree.
-/

namespace FileTree

open Checked

/-! ## Paths -/

/-- A path from the root, by its segments. -/
abbrev Path := List String

/-- Where a symbolic link leads, from the root or from the directory it is in. -/
structure Target where
  absolute : Bool
  names : Path
deriving DecidableEq

inductive Node where
  | directory
  | file (content : List Nat)
  | symlink (target : Target)
deriving DecidableEq

/-- The nodes but for the root, which is a directory. -/
abbrev Tree := Path → Option Node

/-- The errors that the calls answer. -/
inductive Errno where
  | ENOENT | EEXIST | ENOTDIR | ELOOP | EISDIR | ENOSPC
deriving DecidableEq

/-- Follows every link, the last one too. The bound stands for the limits of a
system on links and on the length of paths. -/
def resolve (t : Tree) : Nat → Path → Path → Except Errno Path
  | 0, _, _ => .error .ELOOP
  | _ + 1, visited, [] => .ok visited
  | limit + 1, visited, name :: rest =>
      if name = "." then resolve t limit visited rest
      else if name = ".." then resolve t limit visited.dropLast rest
      else
        match t (visited ++ [name]) with
        | none => .error .ENOENT
        | some .directory => resolve t limit (visited ++ [name]) rest
        | some (.file _) => if rest = [] then .ok (visited ++ [name]) else .error .ENOTDIR
        | some (.symlink target) =>
            resolve t limit (if target.absolute then [] else visited) (target.names ++ rest)

/-- A path that leads through directories alone, not through links. -/
def Directory (t : Tree) (p : Path) : Prop :=
  ∀ q name, q ++ [name] <+: p → t (q ++ [name]) = some .directory ∧ name ≠ "." ∧ name ≠ ".."

section Resolution

variable {t t' : Tree} {p d visited rest : Path} {name : String} {limit : Nat}

theorem directory_nil (t : Tree) : Directory t [] := by
  intro q name h
  exact absurd (List.prefix_nil.mp h) (by simp)

theorem directory_append_singleton :
    Directory t (d ++ [name]) ↔
      Directory t d ∧ t (d ++ [name]) = some .directory ∧ name ≠ "." ∧ name ≠ ".." := by
  constructor
  · intro h
    refine ⟨fun q n hq => h q n (hq.trans (List.prefix_append _ _)), h d name List.prefix_rfl⟩
  · rintro ⟨hd, hlast⟩ q n hq
    rcases List.prefix_concat_iff.mp hq with heq | hfront
    · obtain ⟨rfl, hn⟩ := List.append_inj' heq rfl
      obtain rfl := List.singleton_inj.mp hn
      exact hlast
    · exact hd q n hfront

/-- The path of a directory is resolved as itself. -/
theorem resolve_directory (hd : Directory t (visited ++ rest))
    (h : resolve t limit visited rest = .ok p) : p = visited ++ rest := by
  induction limit generalizing visited rest with
  | zero => exact absurd h (by simp [resolve])
  | succ limit ih =>
    cases rest with
    | nil => rw [List.append_nil, ← Except.ok.inj h]
    | cons name rest =>
      obtain ⟨hnode, hdot, hup⟩ := hd visited name ⟨rest, by simp⟩
      rw [resolve, if_neg hdot, if_neg hup, hnode] at h
      rw [List.append_cons] at hd ⊢
      exact ih hd h

/-- Directories and links stay where they are. -/
def Stays (t t' : Tree) : Prop :=
  ∀ p n, t p = some n → (∀ content, n ≠ .file content) → t' p = some n

theorem Directory.stays (h : Directory t d) (hstays : Stays t t') : Directory t' d := by
  intro q n hq
  obtain ⟨hnode, hplain⟩ := h q n hq
  exact ⟨hstays _ _ hnode (by simp), hplain⟩

/-- What leads to a directory goes on to lead there. -/
theorem resolve_stays (hstays : Stays t t') (h : resolve t limit visited rest = .ok p)
    (hp : Directory t p) : resolve t' limit visited rest = .ok p := by
  induction limit generalizing visited rest with
  | zero => exact absurd h (by simp [resolve])
  | succ limit ih =>
    cases rest with
    | nil => exact h
    | cons name rest =>
      rw [resolve] at h ⊢
      by_cases hdot : name = "."
      · rw [if_pos hdot] at h ⊢
        exact ih h
      rw [if_neg hdot] at h ⊢
      by_cases hup : name = ".."
      · rw [if_pos hup] at h ⊢
        exact ih h
      rw [if_neg hup] at h ⊢
      cases hnode : t (visited ++ [name]) with
      | none =>
        rw [hnode] at h
        exact absurd h (by simp)
      | some n =>
        rw [hnode] at h
        cases n with
        | directory =>
          rw [hstays _ _ hnode (by simp)]
          exact ih h
        | file content =>
          -- the path would end at a file
          dsimp only at h
          by_cases hrest : rest = []
          · rw [if_pos hrest] at h
            obtain rfl := Except.ok.inj h
            have hdirectory := (directory_append_singleton.mp hp).2.1
            rw [hnode] at hdirectory
            exact absurd hdirectory (by simp)
          · rw [if_neg hrest] at h
            exact absurd h (by simp)
        | symlink target =>
          rw [hstays _ _ hnode (by simp)]
          exact ih h

end Resolution

/-! ## System calls -/

/-- The calls that change or read the tree, each of which happens at one moment.
-/
inductive Call where
  | realpath (p : Path)
  | lstat (p : Path)
  | mkdir (p : Path)
  | openExclusive (p : Path)
  | write (p : Path) (content : List Nat)
  | link (existing new : Path)
  | remove (p : Path)
deriving DecidableEq

inductive Kind where
  | directory | file | symlink
deriving DecidableEq

def Node.kind : Node → Kind
  | .directory => .directory
  | .file _ => .file
  | .symlink _ => .symlink

/-- What a call answers. -/
inductive Answer where
  | failed (code : Errno)
  | path (p : Path)
  | kind (kind : Kind)
  | done
deriving DecidableEq

/-- How a call turns out: it works, it fails, or it fails after it has written a part. -/
inductive Luck where
  | works
  | fails (code : Errno)
  | partly (content : List Nat)
deriving DecidableEq

section Calls

variable (limit : Nat) (t : Tree)

/-- The path of an entry, whose own link is not followed. -/
def entry (p : Path) : Except Errno Path :=
  match p.getLast? with
  | none => .ok []
  | some name => do
      let parent ← resolve t limit [] p.dropLast
      require (parent = [] ∨ t parent = some .directory) .ENOTDIR
      return parent ++ [name]

/-- An entry that does not exist yet. -/
def vacant (p : Path) : Except Errno Path := do
  let e ← entry limit t p
  require (e ≠ [] ∧ t e = none) .EEXIST
  return e

def readKind (p : Path) : Except Errno Kind := do
  let e ← entry limit t p
  if e = [] then return .directory
  let n ← orStop (t e) .ENOENT
  return n.kind

/-- The file that is linked, and the entry it is linked to. -/
def linked (existing new : Path) : Except Errno (List Nat × Path) := do
  let source ← entry limit t existing
  let e ← vacant limit t new
  match t source with
  | some (.file content) => return (content, e)
  | _ => throw .ENOENT

/-- The file that is opened at a path. -/
def opened (p : Path) : Except Errno Path := do
  let e ← entry limit t p
  match t e with
  | some (.file _) => return e
  | _ => throw .ENOENT

/-- The entry that is removed; nothing is, if there is none. -/
def removed (p : Path) : Except Errno (Option Path) :=
  match entry limit t p with
  | .error .ENOENT => .ok none
  | .error code => .error code
  | .ok e =>
      match t e with
      | none => .ok none
      | some .directory => .error .EISDIR
      | some _ => .ok (some e)

/-- A call that works. -/
def act : Call → Answer × Tree
  | .realpath p =>
      match resolve t limit [] p with
      | .error code => (.failed code, t)
      | .ok q => (.path q, t)
  | .lstat p =>
      match readKind limit t p with
      | .error code => (.failed code, t)
      | .ok kind => (.kind kind, t)
  | .mkdir p =>
      match vacant limit t p with
      | .error code => (.failed code, t)
      | .ok e => (.done, Function.update t e (some .directory))
  | .openExclusive p =>
      match vacant limit t p with
      | .error code => (.failed code, t)
      | .ok e => (.done, Function.update t e (some (.file [])))
  | .write p content =>
      match opened limit t p with
      | .error code => (.failed code, t)
      | .ok e => (.done, Function.update t e (some (.file content)))
  | .link existing new =>
      match linked limit t existing new with
      | .error code => (.failed code, t)
      | .ok (content, e) => (.done, Function.update t e (some (.file content)))
  | .remove p =>
      match removed limit t p with
      | .error code => (.failed code, t)
      | .ok none => (.done, t)
      | .ok (some e) => (.done, Function.update t e none)

end Calls

/-- A call as it turns out. A failed write may have written a part. -/
def perform (limit : Nat) (luck : Luck) (call : Call) (t : Tree) : Answer × Tree :=
  match luck, call with
  | .works, call => act limit t call
  | .partly content, .write p _ => (.failed .ENOSPC, (act limit t (.write p content)).2)
  | .partly _, _ => (.failed .ENOSPC, t)
  | .fails code, _ => (.failed code, t)

/-! ## What a call does in a directory -/

section Effects

variable {limit : Nat} {t : Tree} {d p : Path} {name : String} {luck : Luck}

/-- In a directory an entry is where its path says. -/
theorem entry_of_directory (hd : Directory t d) {e : Path}
    (h : entry limit t (d ++ [name]) = .ok e) : e = d ++ [name] := by
  unfold entry at h
  rw [List.getLast?_concat, List.dropLast_concat] at h
  simp only [bind_eq_ok, require_eq_ok, pure_eq_ok] at h
  obtain ⟨parent, hparent, -, -, rfl⟩ := h
  rw [@resolve_directory t parent [] d limit hd hparent]
  rfl

theorem vacant_of_directory (hd : Directory t d) {e : Path}
    (h : vacant limit t (d ++ [name]) = .ok e) : e = d ++ [name] ∧ t (d ++ [name]) = none := by
  unfold vacant at h
  simp only [bind_eq_ok, require_eq_ok, pure_eq_ok] at h
  obtain ⟨e', he, -, ⟨-, hnone⟩, rfl⟩ := h
  obtain rfl := entry_of_directory hd he
  exact ⟨rfl, hnone⟩

/-- Only the bound keeps the path of a directory from being resolved. -/
theorem resolve_directory_error {visited rest : Path} {code : Errno}
    (hd : Directory t (visited ++ rest)) (h : resolve t limit visited rest = .error code) :
    code = .ELOOP := by
  induction limit generalizing visited rest with
  | zero => exact (Except.error.inj h).symm
  | succ limit ih =>
    cases rest with
    | nil => exact absurd h (by simp [resolve])
    | cons name rest =>
      obtain ⟨hnode, hdot, hup⟩ := hd visited name ⟨rest, by simp⟩
      rw [resolve, if_neg hdot, if_neg hup, hnode] at h
      rw [List.append_cons] at hd
      exact ih hd h

theorem entry_of_directory_error (hd : Directory t d) {code : Errno}
    (h : entry limit t (d ++ [name]) = .error code) : code ≠ .ENOENT := by
  rintro rfl
  unfold entry at h
  rw [List.getLast?_concat, List.dropLast_concat] at h
  dsimp only at h
  cases hparent : resolve t limit [] d with
  | error code =>
    obtain rfl := @resolve_directory_error limit t [] d code hd hparent
    rw [hparent] at h
    exact absurd h (by simp [Bind.bind, Except.bind])
  | ok parent =>
    rw [hparent] at h
    simp only [Bind.bind, Except.bind, require] at h
    split_ifs at h <;> exact absurd h (by simp [Pure.pure, Except.pure])

/-- A call that only reads. -/
theorem perform_realpath :
    (perform limit luck (.realpath p) t).2 = t ∧
      ∀ q, (perform limit luck (.realpath p) t).1 = .path q → resolve t limit [] p = .ok q := by
  cases luck with
  | works => cases h : resolve t limit [] p <;> simp [perform, act, h]
  | fails code | partly content => simp [perform]

theorem readKind_of_directory (hd : Directory t d) {kind : Kind}
    (h : readKind limit t (d ++ [name]) = .ok kind) :
    ∃ n, t (d ++ [name]) = some n ∧ n.kind = kind := by
  unfold readKind at h
  obtain ⟨e, he, h⟩ := bind_eq_ok.mp h
  obtain rfl := entry_of_directory hd he
  rw [if_neg (by simp)] at h
  simpa using h

theorem perform_lstat (hd : Directory t d) :
    (perform limit luck (.lstat (d ++ [name])) t).2 = t ∧
      ∀ k, (perform limit luck (.lstat (d ++ [name])) t).1 = .kind k →
        ∃ n, t (d ++ [name]) = some n ∧ n.kind = k := by
  cases luck with
  | works =>
    cases h : readKind limit t (d ++ [name]) with
    | error code => simp [perform, act, h]
    | ok kind =>
      have hnode := readKind_of_directory hd h
      refine ⟨by simp [perform, act, h], fun k hk => ?_⟩
      obtain rfl : kind = k := by simpa [perform, act, h] using hk
      exact hnode
  | fails code | partly content => simp [perform]

/-- A new entry of a directory. -/
def Makes (t : Tree) (p : Path) (n : Node) (out : Answer × Tree) : Prop :=
  (out.1 ≠ .done ∧ out.2 = t) ∨
    (out.1 = .done ∧ t p = none ∧ out.2 = Function.update t p (some n))

theorem perform_mkdir (hd : Directory t d) :
    Makes t (d ++ [name]) .directory (perform limit luck (.mkdir (d ++ [name])) t) := by
  cases luck with
  | works =>
    cases h : vacant limit t (d ++ [name]) with
    | error code => simp [Makes, perform, act, h]
    | ok e =>
      obtain ⟨rfl, hnone⟩ := vacant_of_directory hd h
      simp [Makes, perform, act, h, hnone]
  | fails code | partly content => simp [Makes, perform]

theorem perform_openExclusive (hd : Directory t d) (hp : p = d ++ [name]) :
    Makes t p (.file []) (perform limit luck (.openExclusive p) t) := by
  subst hp
  cases luck with
  | works =>
    cases h : vacant limit t (d ++ [name]) with
    | error code => simp [Makes, perform, act, h]
    | ok e =>
      obtain ⟨rfl, hnone⟩ := vacant_of_directory hd h
      simp [Makes, perform, act, h, hnone]
  | fails code | partly content => simp [Makes, perform]

theorem linked_of_directory (hd : Directory t d) {new : String} {content : List Nat} {e : Path}
    (h : linked limit t (d ++ [name]) (d ++ [new]) = .ok (content, e)) :
    t (d ++ [name]) = some (.file content) ∧ e = d ++ [new] ∧ t (d ++ [new]) = none := by
  unfold linked at h
  obtain ⟨source, hsource, h⟩ := bind_eq_ok.mp h
  obtain ⟨e', hvacant, h⟩ := bind_eq_ok.mp h
  obtain rfl := entry_of_directory hd hsource
  obtain ⟨rfl, hnone⟩ := vacant_of_directory hd hvacant
  split at h
  · rename_i content' hnode
    obtain ⟨rfl, rfl⟩ := Prod.mk.inj (Except.ok.inj h)
    exact ⟨hnode, rfl, hnone⟩
  · exact absurd h (by simp [throw, throwThe, MonadExceptOf.throw])

/-- A link in a directory to a file of it. -/
theorem perform_link (hd : Directory t d) (hp : p = d ++ [name]) {q : Path} {new : String}
    (hq : q = d ++ [new]) :
    ((perform limit luck (.link p q) t).1 ≠ .done ∧ (perform limit luck (.link p q) t).2 = t) ∨
    ∃ content, t p = some (.file content) ∧
      Makes t q (.file content) (perform limit luck (.link p q) t) := by
  subst hp hq
  cases luck with
  | works =>
    cases h : linked limit t (d ++ [name]) (d ++ [new]) with
    | error code => simp [perform, act, h]
    | ok out =>
      obtain ⟨content, e⟩ := out
      obtain ⟨hnode, rfl, hnone⟩ := linked_of_directory hd h
      exact .inr ⟨content, hnode, by simp [Makes, perform, act, h, hnone]⟩
  | fails code | partly content => simp [perform]

theorem opened_of_directory (hd : Directory t d) {e : Path}
    (h : opened limit t (d ++ [name]) = .ok e) :
    e = d ++ [name] ∧ ∃ old, t (d ++ [name]) = some (.file old) := by
  unfold opened at h
  obtain ⟨e', he, h⟩ := bind_eq_ok.mp h
  obtain rfl := entry_of_directory hd he
  split at h
  · rename_i old hnode
    exact ⟨(Except.ok.inj h).symm, old, hnode⟩
  · exact absurd h (by simp [throw, throwThe, MonadExceptOf.throw])

/-- A file of a directory is written, wholly if the call works. -/
theorem perform_write (hd : Directory t d) (hp : p = d ++ [name]) {content : List Nat} :
    ((perform limit luck (.write p content) t).1 ≠ .done ∧
      (perform limit luck (.write p content) t).2 = t) ∨
    ∃ old written, t p = some (.file old) ∧
      (perform limit luck (.write p content) t).2 = Function.update t p (some (.file written)) ∧
      ((perform limit luck (.write p content) t).1 = .done → written = content) := by
  subst hp
  cases luck with
  | works =>
    cases h : opened limit t (d ++ [name]) with
    | error code => simp [perform, act, h]
    | ok e =>
      obtain ⟨rfl, old, hold⟩ := opened_of_directory hd h
      exact .inr ⟨old, content, hold, by simp [perform, act, h], fun _ => rfl⟩
  | partly part =>
    cases h : opened limit t (d ++ [name]) with
    | error code => simp [perform, act, h]
    | ok e =>
      obtain ⟨rfl, old, hold⟩ := opened_of_directory hd h
      exact .inr ⟨old, part, hold, by simp [perform, act, h], by simp [perform]⟩
  | fails code => simp [perform]

theorem removed_of_directory (hd : Directory t d) {e : Option Path}
    (h : removed limit t (d ++ [name]) = .ok e) :
    (e = none ∧ t (d ++ [name]) = none) ∨ (e = some (d ++ [name]) ∧ t (d ++ [name]) ≠ none) := by
  unfold removed at h
  cases hentry : entry limit t (d ++ [name]) with
  | error code =>
    have hcode := entry_of_directory_error hd hentry
    rw [hentry] at h
    cases code <;> first | exact absurd rfl hcode | exact absurd h (by simp)
  | ok e' =>
    obtain rfl := entry_of_directory hd hentry
    rw [hentry] at h
    cases hnode : t (d ++ [name]) with
    | none => simp_all
    | some n => cases n <;> simp_all

/-- An entry of a directory that is no directory is removed, if there is one. -/
theorem perform_remove (hd : Directory t d) (hp : p = d ++ [name]) :
    ((perform limit luck (.remove p) t).2 = t ∧
      ((perform limit luck (.remove p) t).1 = .done → t p = none)) ∨
    ((perform limit luck (.remove p) t).2 = Function.update t p none ∧ t p ≠ none) := by
  subst hp
  cases luck with
  | works =>
    cases h : removed limit t (d ++ [name]) with
    | error code => simp [perform, act, h]
    | ok e =>
      rcases removed_of_directory hd h with ⟨rfl, hnone⟩ | ⟨rfl, hsome⟩
      · exact .inl ⟨by simp [perform, act, h], fun _ => hnone⟩
      · exact .inr ⟨by simp [perform, act, h], hsome⟩
  | fails code | partly content => simp [perform]

end Effects

end FileTree
