import EpochGuard.Types
import EpochGuard.Lib.FileTree
import EpochGuard.Lib.Programs

/-!
# Evidence packs in the workspaces of the Agents

`workspace.ts`: a pack is written to a temporary file, which is linked to the
name of its assignment. Several packs may be written at the same time, and every
call to the file system may fail.
-/

namespace EpochGuard

namespace Workspace

open FileTree Programs

/-! ## Calls to the file system -/

/-- What the code throws: an error of the file system, or one of its own. -/
inductive FsError where
  | errno (code : Errno)
  | message (text : String)
deriving DecidableEq

/-- Asynchronous code that calls the file system. -/
abbrev Fs := Action Call Answer FsError

def realpath (p : Path) : Fs Path :=
  request (.realpath p) fun
    | .path q => .ok q
    | .failed code => .error (.errno code)
    | _ => .error (.errno .ENOSPC)

def lstat (p : Path) : Fs Kind :=
  request (.lstat p) fun
    | .kind kind => .ok kind
    | .failed code => .error (.errno code)
    | _ => .error (.errno .ENOSPC)

/-- A call that answers nothing. -/
def command (call : Call) : Fs Unit :=
  request call fun
    | .done => .ok ()
    | .failed code => .error (.errno code)
    | _ => .error (.errno .ENOSPC)

def mkdir (p : Path) : Fs Unit := command (.mkdir p)

/-- `writeFile` with the flag `wx`. -/
def writeFile (p : Path) (content : List Nat) : Fs Unit := do
  command (.openExclusive p)
  command (.write p content)

def link (existing new : Path) : Fs Unit := command (.link existing new)

def rm (p : Path) : Fs Unit := command (.remove p)

/-- `try { body } finally { cleanup }` -/
def ensuring (body cleanup : Fs Unit) : Fs Unit := do
  let outcome ← tryCatch (do body; return none) fun error => return some error
  cleanup
  match outcome with
  | none => return ()
  | some error => throw error

/-! ## The workspace manager -/

def isSegmentChar (c : Char) : Bool := c.isAlphanum || c == '.' || c == '_' || c == '-'

/-- `assertSafeSegment`: `^[A-Za-z0-9][A-Za-z0-9._-]{0,127}$` -/
def isSafeSegment (value : String) : Bool :=
  value != "." && value != ".." &&
    match value.toList with
    | [] => false
    | c :: cs => c.isAlphanum && cs.all isSegmentChar && cs.length ≤ 127

/-- A name that is put into a path is one segment of it. -/
def assertSafeSegment (label value : String) : Fs Unit :=
  demand (isSafeSegment value) (.message (label ++ " is not a safe workspace path segment"))

/-- There is a file at a path, and no symbolic link on the way to it or in its
place. -/
def assertExactRegularFile (expectedPath : Path) : Fs Unit := do
  let information ← lstat expectedPath
  demand (information = .file) (.message "Managed file is not an exact regular file")
  let resolved ← realpath expectedPath
  demand (expectedPath = resolved) (.message "Managed file resolves outside its exact path")

/-- The directory under a parent, made if it is missing and may be. What another
process has put there in the meantime is taken only if it is a directory and
resolves to itself. -/
def ensureExactDirectory (createIfMissing : Bool) (canonicalParent : Path) (segment : String) :
    Fs Path := do
  let expected := canonicalParent ++ [segment]
  let information ← tryCatch (lstat expected) fun error => do
    demand (createIfMissing ∧ error = .errno .ENOENT) error
    tryCatch (mkdir expected) fun mkdirError =>
      demand (mkdirError = .errno .EEXIST) mkdirError
    lstat expected
  demand (information = .directory) (.message "Managed directory is not an exact directory")
  let resolved ← realpath expected
  demand (expected = resolved) (.message "Managed directory resolves outside its exact path")
  return resolved

/-- One directory after the other, down a path. -/
def ensureExactDirectories (createIfMissing : Bool) : Path → List String → Fs Path
  | current, [] => return current
  | current, segment :: segments => do
      let next ← ensureExactDirectory createIfMissing current segment
      ensureExactDirectories createIfMissing next segments

section

variable (root : Path)

/-- The directory of an Agent under the root, which must be where its name says
it is. -/
def canonicalWorkspace (agentId : String) : Fs Path := do
  let canonicalRoot ← realpath root
  let expectedWorkspace := canonicalRoot ++ [agentId]
  let information ← lstat expectedWorkspace
  demand (information = .directory) (.message "Agent workspace is not an exact directory")
  let canonicalWorkspace ← realpath expectedWorkspace
  demand (expectedWorkspace = canonicalWorkspace)
    (.message "Agent workspace does not match its canonical Agent identity")
  return canonicalWorkspace

/-- The directories of a pack, none of which is made. -/
def verifyManagedDirectoryChain (agentId : String) (segments : List String) : Fs Path := do
  let current ← canonicalWorkspace root agentId
  ensureExactDirectories false current segments

/-- The arguments of a write of a pack, with the UUID that it draws for its
temporary name. -/
structure Write where
  agentId : String
  sessionId : String
  role : Role
  assignmentId : String
  canonicalPack : List Nat
  uuid : String

def Write.managedSegments (w : Write) : List String :=
  [".epochguard", "sessions", w.sessionId, w.role.name]

def Write.packName (w : Write) : String := w.assignmentId ++ ".json"

def Write.temporaryName (w : Write) : String :=
  "." ++ w.assignmentId ++ "." ++ w.uuid ++ ".tmp"

/-- The path that is returned, from the workspace. -/
def Write.relativePath (w : Write) : String :=
  "/".intercalate (w.managedSegments ++ [w.packName])

/-- A pack is written under a temporary name in its own directory and then
linked to its name, which fails if that name is taken; the temporary name is
removed in any case. -/
def writeEvidencePackAtomic (w : Write) : Fs String := do
  assertSafeSegment "agentId" w.agentId
  assertSafeSegment "sessionId" w.sessionId
  assertSafeSegment "assignmentId" w.assignmentId
  let workspace ← canonicalWorkspace root w.agentId
  let _ ← ensureExactDirectories true workspace w.managedSegments
  -- the directories that were made above are verified again, from the root
  let canonicalDestinationDirectory ← verifyManagedDirectoryChain root w.agentId w.managedSegments
  let destination := canonicalDestinationDirectory ++ [w.packName]
  let temporary := canonicalDestinationDirectory ++ [w.temporaryName]
  ensuring (do
    writeFile temporary w.canonicalPack
    assertExactRegularFile temporary
    let revalidatedDestination ← verifyManagedDirectoryChain root w.agentId w.managedSegments
    demand (canonicalDestinationDirectory = revalidatedDestination)
      (.message "Evidence Pack directory identity changed during write")
    link temporary destination) (rm temporary)
  return w.relativePath

end

/-! ## Each function of the manager -/

/-- Nothing else has touched the tree. -/
def Same (t t' : Tree) : Prop := t' = t

theorem same_stable {P : Tree → Prop} : Stable Same P :=
  fun _ _ ht h => h ▸ ht

/-- A change where there is nothing but a file. -/
theorem stays_update {t : Tree} {p : Path} {n : Option Node}
    (hold : ∀ x ∈ t p, x.kind = .file) : Stays t (Function.update t p n) := by
  intro q m hq hm
  by_cases h : q = p
  · subst h
    cases m with
    | directory | symlink => exact absurd (hold _ hq) (by simp [Node.kind])
    | file content => exact absurd rfl (hm content)
  · rw [Function.update_of_ne h, hq]

theorem file_of_new {t : Tree} {p : Path} (hnew : t p = none) : ∀ x ∈ t p, x.kind = .file := by
  simp [hnew]

section Rules

variable {limit : Nat} {R G : Tree → Tree → Prop} {P : Tree → Prop} {d p : Path} {name : String}

theorem stable_directory (hR : ∀ t t', R t t' → Stays t t') (d : Path) :
    Stable R fun t => Directory t d :=
  fun t t' ht h => ht.stays (hR t t' h)

/-- What is known of a tree under everything that the others do is known when a
path is resolved. -/
theorem realpath_spec (hP : Stable R P) {K : Path → Prop}
    (h : ∀ t q, P t → resolve t limit [] p = .ok q → K q) :
    Triple (perform limit) R Same P (realpath p) (fun q t => K q ∧ P t) fun _ => P := by
  apply Triple.request (fun q => (Stable.const (K q)).and hP) (fun _ => hP)
  · intro luck t _
    exact perform_realpath.1
  · intro luck t ht
    obtain ⟨hsame, hanswer⟩ := @perform_realpath limit t p luck
    rw [hsame]
    cases hout : (perform limit luck (.realpath p) t).1 with
    | path q => exact ⟨h t q ht (hanswer q hout), ht⟩
    | failed | kind | done => exact ht

/-- A directory that has been seen stays one. -/
theorem lstat_spec (hR : ∀ t t', R t t' → Stays t t') (hP : Stable R P)
    (hdirectory : ∀ t, P t → Directory t d) (hname : name ≠ "." ∧ name ≠ "..") :
    Triple (perform limit) R Same P (lstat (d ++ [name]))
      (fun kind t => P t ∧ (kind = .directory → Directory t (d ++ [name]))) fun _ => P := by
  apply Triple.request (fun kind => hP.and ?_) (fun _ => hP)
  · intro luck t ht
    exact (perform_lstat (hdirectory t ht)).1
  · intro luck t ht
    obtain ⟨hsame, hanswer⟩ := @perform_lstat limit t d name luck (hdirectory t ht)
    rw [hsame]
    cases hout : (perform limit luck (.lstat (d ++ [name])) t).1 with
    | kind kind =>
      refine ⟨ht, fun hkind => ?_⟩
      obtain ⟨n, hn, hnode⟩ := hanswer kind hout
      rw [hkind] at hnode
      cases n with
      | directory => exact directory_append_singleton.mpr ⟨hdirectory t ht, hn, hname⟩
      | file | symlink => exact absurd hnode (by simp [Node.kind])
    | failed | path | done => exact ht
  · intro t t' ht hstep hkind
    exact (ht hkind).stays (hR t t' hstep)

/-- A directory is made under a directory, or there is one already. -/
theorem mkdir_spec (hR : ∀ t t', R t t' → Stays t t') (hG : ∀ t, G t t)
    (hmake : ∀ t, t (d ++ [name]) = none →
      G t (Function.update t (d ++ [name]) (some .directory))) :
    Triple (perform limit) R G (fun t => Directory t d) (mkdir (d ++ [name]))
      (fun _ t => Directory t d) fun _ t => Directory t d := by
  apply Triple.request (fun _ => stable_directory hR d) (fun _ => stable_directory hR d)
  · intro luck t ht
    rcases @perform_mkdir limit t d name luck ht with ⟨-, heq⟩ | ⟨-, hnew, heq⟩
    · rw [heq]
      exact hG t
    · rw [heq]
      exact hmake t hnew
  · intro luck t ht
    have hafter : Directory (perform limit luck (.mkdir (d ++ [name])) t).2 d := by
      rcases @perform_mkdir limit t d name luck ht with ⟨-, heq⟩ | ⟨-, hnew, heq⟩
      · rwa [heq]
      · rw [heq]
        exact ht.stays (stays_update (file_of_new hnew))
    cases (perform limit luck (.mkdir (d ++ [name])) t).1 <;> exact hafter

/-- After it there is a directory, and the change that made it was allowed. -/
theorem ensureExactDirectory_spec (hR : ∀ t t', R t t' → Stays t t') (hG : ∀ t, G t t)
    {create : Bool} (hname : name ≠ "." ∧ name ≠ "..")
    (hmake : create → ∀ t, t (d ++ [name]) = none →
      G t (Function.update t (d ++ [name]) (some .directory))) :
    Triple (perform limit) R G (fun t => Directory t d) (ensureExactDirectory create d name)
      (fun q t => q = d ++ [name] ∧ Directory t (d ++ [name])) fun _ _ => True := by
  have hread : ∀ t t', Same t t' → G t t' := fun t t' h => h ▸ hG t
  have hlstat : Triple (perform limit) R G (fun t => Directory t d) (lstat (d ++ [name]))
      (fun kind t => Directory t d ∧ (kind = .directory → Directory t (d ++ [name])))
      fun _ t => Directory t d :=
    (lstat_spec hR (stable_directory hR d) (fun _ => id) hname).mono hread
  have hnothing : ∀ (e : FsError) (t : Tree), Directory t d → True := fun _ _ _ => trivial
  unfold ensureExactDirectory
  apply Triple.bind (M := fun kind t => kind = .directory → Directory t (d ++ [name]))
  · apply Triple.tryCatch (hlstat.strengthen (fun _ _ h => h.2) fun _ _ h => h)
    intro error
    apply Triple.bind (M := fun _ t => create = true ∧ Directory t d)
    · exact Triple.demand (fun hc t ht => ⟨hc.1, ht⟩) fun _ _ _ => trivial
    intro _
    apply Triple.assume
    intro hcreate
    apply Triple.bind (M := fun _ t => Directory t d)
    · apply Triple.tryCatch (mkdir_spec hR hG (hmake hcreate))
      intro mkdirError
      exact Triple.demand (fun _ _ => id) fun _ _ _ => trivial
    · intro _
      exact hlstat.strengthen (fun _ _ h => h.2) hnothing
  intro information
  apply Triple.bind (M := fun _ t => Directory t (d ++ [name]))
  · exact Triple.demand (fun hc t ht => ht hc) fun _ _ _ => trivial
  intro _
  apply Triple.bind (M := fun q t => q = d ++ [name] ∧ Directory t (d ++ [name]))
  · apply Triple.strengthen (Triple.mono (realpath_spec (stable_directory hR _) ?_) hread)
      (fun _ _ => id) fun _ _ _ => trivial
    intro t q ht hq
    exact @resolve_directory t q [] _ limit ht hq
  intro resolved
  apply Triple.bind (M := fun _ t => resolved = d ++ [name] ∧ Directory t (d ++ [name]))
  · exact Triple.demand (fun _ _ => id) fun _ _ _ => trivial
  · exact fun _ => Triple.pure fun _ => id

/-- So for a whole path, one segment after the other. -/
theorem ensureExactDirectories_spec (hR : ∀ t t', R t t' → Stays t t') (hG : ∀ t, G t t)
    {create : Bool} {segments : List String} (hsegments : ∀ s ∈ segments, s ≠ "." ∧ s ≠ "..")
    (hmake : create → ∀ above name, above ++ [name] <+: segments → ∀ t,
      t (d ++ above ++ [name]) = none →
      G t (Function.update t (d ++ above ++ [name]) (some .directory))) :
    Triple (perform limit) R G (fun t => Directory t d)
      (ensureExactDirectories create d segments)
      (fun q t => q = d ++ segments ∧ Directory t (d ++ segments)) fun _ _ => True := by
  induction segments generalizing d with
  | nil =>
    apply Triple.pure
    intro t ht
    rw [List.append_nil]
    exact ⟨rfl, ht⟩
  | cons segment segments ih =>
    rw [ensureExactDirectories]
    apply Triple.bind (ensureExactDirectory_spec hR hG (hsegments _ List.mem_cons_self) ?_)
    · intro next
      apply Triple.assume
      rintro rfl
      rw [List.append_cons d segment segments]
      apply ih fun s hs => hsegments s (List.mem_cons_of_mem _ hs)
      intro hcreate above name hfront
      have hlonger : (segment :: above) ++ [name] <+: segment :: segments :=
        List.cons_prefix_cons.mpr ⟨rfl, hfront⟩
      have hnext := hmake hcreate (segment :: above) name hlonger
      rwa [List.append_cons d segment above] at hnext
    · intro hcreate
      have hfirst := hmake hcreate [] segment ⟨segments, rfl⟩
      rwa [List.append_nil] at hfirst

/-- The root leads to this directory. -/
def AtRoot (limit : Nat) (root canonicalRoot : Path) (t : Tree) : Prop :=
  resolve t limit [] root = .ok canonicalRoot ∧ Directory t canonicalRoot

theorem stable_atRoot (hR : ∀ t t', R t t' → Stays t t') (root canonicalRoot : Path) :
    Stable R (AtRoot limit root canonicalRoot) :=
  fun t t' ht h => ⟨resolve_stays (hR t t' h) ht.1 ht.2, ht.2.stays (hR t t' h)⟩

section

variable {root canonicalRoot : Path} {agentId : String}

/-- The workspace is a directory right under the root, whatever links lead to
the root. -/
theorem canonicalWorkspace_spec (hR : ∀ t t', R t t' → Stays t t')
    (hagent : agentId ≠ "." ∧ agentId ≠ "..") :
    Triple (perform limit) R Same (AtRoot limit root canonicalRoot)
      (canonicalWorkspace root agentId)
      (fun q t => q = canonicalRoot ++ [agentId] ∧ Directory t (canonicalRoot ++ [agentId]))
      fun _ _ => True := by
  unfold canonicalWorkspace
  apply Triple.bind (M := fun q t => q = canonicalRoot ∧ Directory t canonicalRoot)
  · apply Triple.strengthen (realpath_spec (stable_atRoot hR root canonicalRoot) ?_)
      (fun _ _ h => ⟨h.1, h.2.2⟩) fun _ _ _ => trivial
    intro t q ht hq
    exact Except.ok.inj (hq.symm.trans ht.1)
  intro q
  apply Triple.assume
  rintro rfl
  apply Triple.bind (M := fun kind t => kind = .directory → Directory t (q ++ [agentId]))
  · exact (lstat_spec hR (stable_directory hR q) (fun _ => id) hagent).strengthen
      (fun _ _ h => h.2) fun _ _ _ => trivial
  intro information
  apply Triple.bind (M := fun _ t => Directory t (q ++ [agentId]))
  · exact Triple.demand (fun hc t ht => ht hc) fun _ _ _ => trivial
  intro _
  apply Triple.bind (M := fun p t => p = q ++ [agentId] ∧ Directory t (q ++ [agentId]))
  · apply Triple.strengthen (realpath_spec (stable_directory hR _) ?_) (fun _ _ => id)
      fun _ _ _ => trivial
    intro t p ht hp
    exact @resolve_directory t p [] _ limit ht hp
  intro p
  apply Triple.bind (M := fun _ t => p = q ++ [agentId] ∧ Directory t (q ++ [agentId]))
  · exact Triple.demand (fun _ _ => id) fun _ _ _ => trivial
  · exact fun _ => Triple.pure fun _ => id

theorem verifyManagedDirectoryChain_spec (hR : ∀ t t', R t t' → Stays t t')
    (hagent : agentId ≠ "." ∧ agentId ≠ "..") {segments : List String}
    (hsegments : ∀ s ∈ segments, s ≠ "." ∧ s ≠ "..") :
    Triple (perform limit) R Same (AtRoot limit root canonicalRoot)
      (verifyManagedDirectoryChain root agentId segments)
      (fun q t => q = canonicalRoot ++ [agentId] ++ segments ∧
        Directory t (canonicalRoot ++ [agentId] ++ segments)) fun _ _ => True := by
  apply Triple.bind (canonicalWorkspace_spec hR hagent)
  intro current
  apply Triple.assume
  rintro rfl
  apply ensureExactDirectories_spec hR (G := Same) (fun _ => rfl) hsegments
  intro hcreate
  exact absurd hcreate (by simp)

end

/-- The check of a file changes nothing. -/
theorem assertExactRegularFile_spec (hR : ∀ t t', R t t' → Stays t t')
    (hname : name ≠ "." ∧ name ≠ "..") :
    Triple (perform limit) R Same (fun t => Directory t d)
      (assertExactRegularFile (d ++ [name])) (fun _ _ => True) fun _ _ => True := by
  apply Triple.bind (M := fun _ _ => True)
  · exact (lstat_spec hR (stable_directory hR d) (fun _ => id) hname).strengthen
      (fun _ _ _ => trivial) fun _ _ _ => trivial
  intro information
  apply Triple.bind (M := fun _ _ => True)
  · exact Triple.demand (fun _ _ => id) fun _ _ => id
  intro _
  apply Triple.bind (M := fun _ _ => True)
  · apply Triple.strengthen (realpath_spec (Stable.const True) (K := fun _ => True) ?_)
      (fun _ _ _ => trivial) fun _ _ => id
    exact fun _ _ _ _ => trivial
  · exact fun resolved => Triple.demand (fun _ _ => id) fun _ _ => id

/-- The cleanup runs after the body in any case; what it keeps holds at the end.
-/
theorem ensuring_spec {body cleanup : Fs Unit} {K L Q : Tree → Prop}
    (hbody : Triple (perform limit) R G P body (fun _ => K) fun _ => L)
    (hkept : Triple (perform limit) R G K cleanup (fun _ => Q) fun _ _ => True)
    (hfailed : Triple (perform limit) R G L cleanup (fun _ _ => True) fun _ _ => True) :
    Triple (perform limit) R G P (ensuring body cleanup) (fun _ => Q) fun _ _ => True := by
  unfold ensuring
  apply Triple.bind (M := fun outcome => if outcome = none then K else L)
  · apply Triple.tryCatch (M := fun _ => L)
    · apply Triple.bind hbody
      intro _
      exact Triple.pure fun t ht => (if_pos rfl : _ = K) ▸ ht
    · exact fun error => Triple.pure fun t ht => ht
  intro outcome
  cases outcome with
  | none => exact Triple.bind hkept fun _ => Triple.pure fun _ => id
  | some error => exact Triple.bind hfailed fun _ => Triple.throw fun _ _ => trivial

theorem command_spec {K L : Tree → Prop} {call : Call} (hK : Stable R K) (hL : Stable R L)
    (h : ∀ luck t, P t → G t (perform limit luck call t).2 ∧
      ((perform limit luck call t).1 = .done → K (perform limit luck call t).2) ∧
      ((perform limit luck call t).1 ≠ .done → L (perform limit luck call t).2)) :
    Triple (perform limit) R G P (command call) (fun _ => K) fun _ => L := by
  apply Triple.request (fun _ => hK) (fun _ => hL) fun luck t ht => (h luck t ht).1
  intro luck t ht
  obtain ⟨-, hdone, hfailed⟩ := h luck t ht
  cases hout : (perform limit luck call t).1 with
  | done => exact hdone hout
  | failed | path | kind => exact hfailed (by simp [hout])

end Rules

end Workspace

end EpochGuard
