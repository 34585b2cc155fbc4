import EpochGuard.Workspace

/-!
# Evidence packs that are written at the same time

Each write is proved alone, from what the other writes leave as it is. Together
they replace nothing, and a write that returns has published its pack.
-/

namespace EpochGuard

namespace Workspace

open FileTree Programs

/-! ## What one write may do, and what it relies on -/

/-- The names that become segments of the path are safe. -/
def Write.Safe (w : Write) : Prop :=
  isSafeSegment w.agentId ∧ isSafeSegment w.sessionId ∧ isSafeSegment w.assignmentId

section

variable (canonicalRoot : Path) (w : Write)

def workspaceOf : Path := canonicalRoot ++ [w.agentId]

/-- The directory of the packs of a session and a role. -/
def packDirectory : Path := workspaceOf canonicalRoot w ++ w.managedSegments

def destinationOf : Path := packDirectory canonicalRoot w ++ [w.packName]

def temporaryOf : Path := packDirectory canonicalRoot w ++ [w.temporaryName]

/-- The directories that a write may make: none of them is a workspace. -/
def Managed (p : Path) : Prop :=
  ∃ above name, above ++ [name] <+: w.managedSegments ∧
    p = workspaceOf canonicalRoot w ++ above ++ [name]

/-- What one call of a write does to the files. -/
inductive Change (t : Tree) : Tree → Prop where
  | none : Change t t
  | directory {p : Path} (hmanaged : Managed canonicalRoot w p) (hnew : t p = .none) :
      Change t (Function.update t p (some .directory))
  | temporary {n : Option Node} (hn : ∀ x ∈ n, x.kind = .file)
      (hold : ∀ x ∈ t (temporaryOf canonicalRoot w), x.kind = .file) :
      Change t (Function.update t (temporaryOf canonicalRoot w) n)
  | published (hnew : t (destinationOf canonicalRoot w) = .none) :
      Change t (Function.update t (destinationOf canonicalRoot w) (some (.file w.canonicalPack)))

/-- What one call of a write does to the tree: nothing, or one of its own
changes when its names are safe. -/
def Guarantee (t t' : Tree) : Prop := t' = t ∨ w.Safe ∧ Change canonicalRoot w t t'

/-- What a write relies on: the others replace and remove nothing but temporary
files of their own. -/
structure Rely (others : Path → Prop) (t t' : Tree) : Prop where
  stays : Stays t t'
  kept : ∀ p n, t p = some n → ¬ others p → t' p = some n
  untouched : t' (temporaryOf canonicalRoot w) = t (temporaryOf canonicalRoot w)

end

/-! ## The names of a write -/

section Names

variable {w : Write} {canonicalRoot p : Path} {value : String}

theorem ne_dots_of_isSafeSegment (h : isSafeSegment value) : value ≠ "." ∧ value ≠ ".." := by
  simp only [isSafeSegment, Bool.and_eq_true, bne_iff_ne] at h
  exact h.1

theorem managedSegments_ne_dots (hsafe : w.Safe) :
    ∀ s ∈ w.managedSegments, s ≠ "." ∧ s ≠ ".." := by
  intro s hs
  simp only [Write.managedSegments, List.mem_cons, List.not_mem_nil, or_false] at hs
  rcases hs with rfl | rfl | rfl | rfl
  · decide
  · decide
  · exact ne_dots_of_isSafeSegment hsafe.2.1
  · cases w.role <;> decide

theorem temporaryName_ne_dots : w.temporaryName ≠ "." ∧ w.temporaryName ≠ ".." := by
  have hlength : 5 ≤ w.temporaryName.length := by
    simp only [Write.temporaryName, String.length_append]
    have htmp : ".tmp".length = 4 := rfl
    have hdot : ".".length = 1 := rfl
    omega
  constructor
  · intro h
    rw [h] at hlength
    exact absurd hlength (by decide)
  · intro h
    rw [h] at hlength
    exact absurd hlength (by decide)

theorem temporaryName_ne_packName (v : Write) : w.temporaryName ≠ v.packName := by
  intro h
  have hlast := congrArg (fun s => s.toList.getLast?) h
  simp only [Write.temporaryName, Write.packName, String.toList_append,
    List.getLast?_append] at hlast
  have htmp : ".tmp".toList.getLast? = some 'p' := by decide
  have hjson : ".json".toList.getLast? = some 'n' := by decide
  rw [htmp, hjson] at hlast
  exact absurd hlast (by simp)

/-- A UUID has 36 characters. -/
theorem uuid_eq_of_temporaryName {v : Write} (hw : w.uuid.length = 36) (hv : v.uuid.length = 36)
    (h : w.temporaryName = v.temporaryName) : w.uuid = v.uuid := by
  have hchars := congrArg String.toList h
  simp only [Write.temporaryName, String.toList_append] at hchars
  obtain ⟨hfront, -⟩ := List.append_inj' hchars rfl
  have hlength : w.uuid.toList.length = v.uuid.toList.length := by
    rw [String.length_toList, String.length_toList, hw, hv]
  obtain ⟨-, huuid⟩ := List.append_inj' hfront hlength
  exact String.toList_injective huuid

theorem temporaryOf_ne_destinationOf (v : Write) :
    temporaryOf canonicalRoot w ≠ destinationOf canonicalRoot v := by
  intro h
  have hlast := congrArg List.getLast? h
  simp only [temporaryOf, destinationOf, List.getLast?_concat, Option.some.injEq] at hlast
  exact temporaryName_ne_packName v hlast

theorem uuid_eq_of_temporaryOf {v : Write} (hw : w.uuid.length = 36) (hv : v.uuid.length = 36)
    (h : temporaryOf canonicalRoot w = temporaryOf canonicalRoot v) : w.uuid = v.uuid := by
  have hlast := congrArg List.getLast? h
  simp only [temporaryOf, List.getLast?_concat, Option.some.injEq] at hlast
  exact uuid_eq_of_temporaryName hw hv hlast

/-- The directories that are made are above the packs. -/
theorem Managed.length_le (h : Managed canonicalRoot w p) :
    p.length ≤ canonicalRoot.length + 5 := by
  obtain ⟨above, name, hfront, rfl⟩ := h
  have hshort := hfront.length_le
  simp only [Write.managedSegments, List.length_append, List.length_cons, List.length_nil,
    workspaceOf] at hshort ⊢
  omega

theorem length_temporaryOf : (temporaryOf canonicalRoot w).length = canonicalRoot.length + 6 := by
  simp [temporaryOf, packDirectory, workspaceOf, Write.managedSegments]

theorem length_destinationOf :
    (destinationOf canonicalRoot w).length = canonicalRoot.length + 6 := by
  simp [destinationOf, packDirectory, workspaceOf, Write.managedSegments]

theorem Managed.ne_temporaryOf (h : Managed canonicalRoot w p) (v : Write) :
    temporaryOf canonicalRoot v ≠ p := by
  rintro rfl
  have hlength := h.length_le
  rw [length_temporaryOf] at hlength
  omega

theorem Managed.ne_destinationOf (h : Managed canonicalRoot w p) (v : Write) :
    destinationOf canonicalRoot v ≠ p := by
  rintro rfl
  have hlength := h.length_le
  rw [length_destinationOf] at hlength
  omega

end Names

/-! ## One write among others -/

section Write

variable {limit : Nat} {root canonicalRoot : Path} {w : Write} {others : Path → Prop}
  {first : Tree} {content : Option Node}

theorem stays_of_rely : ∀ t t', Rely canonicalRoot w others t t' → Stays t t' :=
  fun _ _ h => h.stays

/-- Up to the link: nothing has been written to the destination. -/
structure Staged (limit : Nat) (root canonicalRoot : Path) (w : Write) (first : Tree)
    (content : Option Node) (t : Tree) : Prop where
  atRoot : AtRoot limit root canonicalRoot t
  temporary : t (temporaryOf canonicalRoot w) = content
  destination : ∀ n, first (destinationOf canonicalRoot w) = some n →
    t (destinationOf canonicalRoot w) = some n

/-- The temporary entry is a file, if it is there. -/
def Plain (canonicalRoot : Path) (w : Write) (t : Tree) : Prop :=
  Directory t (packDirectory canonicalRoot w) ∧
    ∀ n ∈ t (temporaryOf canonicalRoot w), n.kind = .file

/-- The link has been made. -/
def Linked (canonicalRoot : Path) (w : Write) (first t : Tree) : Prop :=
  first (destinationOf canonicalRoot w) = none ∧
    t (destinationOf canonicalRoot w) = some (.file w.canonicalPack)

/-- The pack is where its assignment says, and its temporary file is gone. -/
def Published (canonicalRoot : Path) (w : Write) (first t : Tree) : Prop :=
  Directory t (packDirectory canonicalRoot w) ∧ t (temporaryOf canonicalRoot w) = none ∧
    Linked canonicalRoot w first t

theorem stable_staged (hothers : ¬ others (destinationOf canonicalRoot w)) :
    Stable (Rely canonicalRoot w others) (Staged limit root canonicalRoot w first content) := by
  intro t t' ht h
  exact { atRoot := stable_atRoot stays_of_rely root canonicalRoot t t' ht.atRoot h
          temporary := h.untouched.trans ht.temporary
          destination := fun n hn => h.kept _ n (ht.destination n hn) hothers }

theorem stable_plain : Stable (Rely canonicalRoot w others) (Plain canonicalRoot w) := by
  intro t t' ht h
  refine ⟨ht.1.stays h.stays, ?_⟩
  rw [h.untouched]
  exact ht.2

theorem stable_linked (hothers : ¬ others (destinationOf canonicalRoot w)) :
    Stable (Rely canonicalRoot w others) (Linked canonicalRoot w first) :=
  fun _ _ ht h => ⟨ht.1, h.kept _ _ ht.2 hothers⟩

/-- A pack that is there is not written again. -/
theorem linked_guarantee :
    Stable (Guarantee canonicalRoot w) (Linked canonicalRoot w first) := by
  intro t t' ht h
  rcases h with rfl | ⟨-, hchange⟩
  · exact ht
  refine ⟨ht.1, ?_⟩
  cases hchange with
  | none => exact ht.2
  | directory hmanaged hnew =>
    rw [Function.update_of_ne (hmanaged.ne_destinationOf w)]
    exact ht.2
  | temporary hn hold =>
    rw [Function.update_of_ne (temporaryOf_ne_destinationOf w).symm]
    exact ht.2
  | published hnew =>
    rw [ht.2] at hnew
    exact absurd hnew (by simp)

/-- What the calls that make the directories do. -/
def Creates (canonicalRoot : Path) (w : Write) (t t' : Tree) : Prop :=
  t' = t ∨ ∃ p, Managed canonicalRoot w p ∧ t p = none ∧
    t' = Function.update t p (some .directory)

theorem creates_staged :
    Stable (Creates canonicalRoot w) (Staged limit root canonicalRoot w first content) := by
  intro t t' ht h
  rcases h with rfl | ⟨p, hmanaged, hnew, rfl⟩
  · exact ht
  have hstays := stays_update (n := some .directory) (file_of_new hnew)
  constructor
  · exact ⟨resolve_stays hstays ht.atRoot.1 ht.atRoot.2, ht.atRoot.2.stays hstays⟩
  · rw [Function.update_of_ne (hmanaged.ne_temporaryOf w)]
    exact ht.temporary
  · rw [Function.update_of_ne (hmanaged.ne_destinationOf w)]
    exact ht.destination

variable (hsafe : w.Safe) (hothers : ¬ others (destinationOf canonicalRoot w))

theorem Staged.update {content' : Option Node} {t : Tree}
    (ht : Staged limit root canonicalRoot w first content t)
    (hold : ∀ x ∈ content, x.kind = .file) :
    Staged limit root canonicalRoot w first content'
      (Function.update t (temporaryOf canonicalRoot w) content') := by
  have hstays : Stays t (Function.update t (temporaryOf canonicalRoot w) content') := by
    apply stays_update
    rwa [ht.temporary]
  constructor
  · exact ⟨resolve_stays hstays ht.atRoot.1 ht.atRoot.2, ht.atRoot.2.stays hstays⟩
  · exact Function.update_self ..
  · intro n hn
    rw [Function.update_of_ne (temporaryOf_ne_destinationOf w).symm]
    exact ht.destination n hn

theorem Plain.update {t : Tree} {n : Option Node} (ht : Plain canonicalRoot w t)
    (hn : ∀ x ∈ n, x.kind = .file) :
    Plain canonicalRoot w (Function.update t (temporaryOf canonicalRoot w) n) := by
  refine ⟨ht.1.stays (stays_update ht.2), ?_⟩
  rwa [Function.update_self]

theorem Staged.plain {t : Tree} (ht : Staged limit root canonicalRoot w first content t)
    (hdirectory : Directory t (packDirectory canonicalRoot w))
    (hcontent : ∀ x ∈ content, x.kind = .file) : Plain canonicalRoot w t :=
  ⟨hdirectory, by rwa [ht.temporary]⟩

include hsafe hothers

theorem openExclusive_spec :
    Triple (perform limit) (Rely canonicalRoot w others) (Guarantee canonicalRoot w)
      (fun t => Directory t (packDirectory canonicalRoot w) ∧
        Staged limit root canonicalRoot w first none t)
      (command (.openExclusive (temporaryOf canonicalRoot w)))
      (fun _ t => Directory t (packDirectory canonicalRoot w) ∧
        Staged limit root canonicalRoot w first (some (.file [])) t)
      fun _ => Plain canonicalRoot w := by
  apply command_spec ((stable_directory stays_of_rely _).and (stable_staged hothers)) stable_plain
  rintro luck t ⟨hdirectory, ht⟩
  have hplain := ht.plain hdirectory (by simp)
  rcases @perform_openExclusive limit t _ (temporaryOf canonicalRoot w) _ luck hdirectory rfl with
    ⟨hfailed, heq⟩ | ⟨hdone, -, heq⟩
  · rw [heq]
    exact ⟨.inl rfl, fun hdone => absurd hdone hfailed, fun _ => hplain⟩
  · rw [heq]
    refine ⟨.inr ⟨hsafe, .temporary (by simp [Node.kind]) hplain.2⟩, fun _ => ?_,
      fun hfailed => absurd hdone hfailed⟩
    exact ⟨hdirectory.stays (stays_update hplain.2), ht.update (by simp)⟩

theorem write_spec :
    Triple (perform limit) (Rely canonicalRoot w others) (Guarantee canonicalRoot w)
      (fun t => Directory t (packDirectory canonicalRoot w) ∧
        Staged limit root canonicalRoot w first (some (.file [])) t)
      (command (.write (temporaryOf canonicalRoot w) w.canonicalPack))
      (fun _ t => Directory t (packDirectory canonicalRoot w) ∧
        Staged limit root canonicalRoot w first (some (.file w.canonicalPack)) t)
      fun _ => Plain canonicalRoot w := by
  apply command_spec ((stable_directory stays_of_rely _).and (stable_staged hothers)) stable_plain
  rintro luck t ⟨hdirectory, ht⟩
  have hplain := ht.plain hdirectory (by simp [Node.kind])
  rcases @perform_write limit t _ (temporaryOf canonicalRoot w) _ luck hdirectory rfl
    w.canonicalPack with ⟨hfailed, heq⟩ | ⟨old, written, -, heq, hwritten⟩
  · rw [heq]
    exact ⟨.inl rfl, fun hdone => absurd hdone hfailed, fun _ => hplain⟩
  · rw [heq]
    refine ⟨.inr ⟨hsafe, .temporary (by simp [Node.kind]) hplain.2⟩, fun hdone => ?_,
      fun _ => hplain.update (by simp [Node.kind])⟩
    obtain rfl := hwritten hdone
    exact ⟨hdirectory.stays (stays_update hplain.2), ht.update (by simp [Node.kind])⟩

/-- Only a destination that did not exist is linked, to the whole pack. -/
theorem link_spec :
    Triple (perform limit) (Rely canonicalRoot w others) (Guarantee canonicalRoot w)
      (fun t => Directory t (packDirectory canonicalRoot w) ∧
        Staged limit root canonicalRoot w first (some (.file w.canonicalPack)) t)
      (link (temporaryOf canonicalRoot w) (destinationOf canonicalRoot w))
      (fun _ t => Plain canonicalRoot w t ∧ Linked canonicalRoot w first t)
      fun _ => Plain canonicalRoot w := by
  apply command_spec (stable_plain.and (stable_linked hothers)) stable_plain
  rintro luck t ⟨hdirectory, ht⟩
  have hplain := ht.plain hdirectory (by simp [Node.kind])
  rcases @perform_link limit t _ (temporaryOf canonicalRoot w) _ luck hdirectory rfl
    (destinationOf canonicalRoot w) _ rfl with ⟨hfailed, heq⟩ | ⟨content, hcontent, hmade⟩
  · rw [heq]
    exact ⟨.inl rfl, fun hdone => absurd hdone hfailed, fun _ => hplain⟩
  obtain rfl : w.canonicalPack = content := by
    have hsame := ht.temporary.symm.trans hcontent
    exact Node.file.inj (Option.some.inj hsame)
  rcases hmade with ⟨hfailed, heq⟩ | ⟨hdone, hnew, heq⟩
  · rw [heq]
    exact ⟨.inl rfl, fun hdone => absurd hdone hfailed, fun _ => hplain⟩
  rw [heq]
  refine ⟨.inr ⟨hsafe, .published hnew⟩, fun _ => ⟨⟨?_, ?_⟩, ?_, Function.update_self ..⟩,
    fun hfailed => absurd hdone hfailed⟩
  · exact hdirectory.stays (stays_update (file_of_new hnew))
  · rw [Function.update_of_ne (temporaryOf_ne_destinationOf w)]
    exact hplain.2
  · cases hfirst : first (destinationOf canonicalRoot w) with
    | none => rfl
    | some n =>
      rw [ht.destination n hfirst] at hnew
      exact absurd hnew (by simp)

omit hothers in
/-- The temporary file is removed, or the call fails. -/
theorem rm_spec :
    Triple (perform limit) (Rely canonicalRoot w others) (Guarantee canonicalRoot w)
      (Plain canonicalRoot w) (rm (temporaryOf canonicalRoot w))
      (fun _ t => Directory t (packDirectory canonicalRoot w) ∧
        t (temporaryOf canonicalRoot w) = none) fun _ _ => True := by
  apply command_spec (L := fun _ => True) ?_ (Stable.const True)
  · intro luck t hplain
    rcases @perform_remove limit t _ (temporaryOf canonicalRoot w) _ luck hplain.1 rfl with
      ⟨heq, hnone⟩ | ⟨heq, -⟩
    · rw [heq]
      exact ⟨.inl rfl, fun hdone => ⟨hplain.1, hnone hdone⟩, fun _ => trivial⟩
    · rw [heq]
      refine ⟨.inr ⟨hsafe, .temporary (by simp) hplain.2⟩, fun _ => ⟨?_, ?_⟩, fun _ => trivial⟩
      · exact hplain.1.stays (stays_update hplain.2)
      · exact Function.update_self ..
  · exact fun t t' ht h => ⟨ht.1.stays h.stays, h.untouched.trans ht.2⟩

theorem writeFile_spec :
    Triple (perform limit) (Rely canonicalRoot w others) (Guarantee canonicalRoot w)
      (fun t => Directory t (packDirectory canonicalRoot w) ∧
        Staged limit root canonicalRoot w first none t)
      (writeFile (temporaryOf canonicalRoot w) w.canonicalPack)
      (fun _ t => Directory t (packDirectory canonicalRoot w) ∧
        Staged limit root canonicalRoot w first (some (.file w.canonicalPack)) t)
      fun _ => Plain canonicalRoot w :=
  Triple.bind (openExclusive_spec hsafe hothers) fun _ => write_spec hsafe hothers

/-- From a directory that has been verified, the pack is published or it is not. -/
theorem publish_spec :
    Triple (perform limit) (Rely canonicalRoot w others) (Guarantee canonicalRoot w)
      (fun t => Directory t (packDirectory canonicalRoot w) ∧
        Staged limit root canonicalRoot w first none t)
      (do
        writeFile (temporaryOf canonicalRoot w) w.canonicalPack
        assertExactRegularFile (temporaryOf canonicalRoot w)
        let revalidatedDestination ← verifyManagedDirectoryChain root w.agentId w.managedSegments
        demand (packDirectory canonicalRoot w = revalidatedDestination)
          (.message "Evidence Pack directory identity changed during write")
        link (temporaryOf canonicalRoot w) (destinationOf canonicalRoot w))
      (fun _ t => Plain canonicalRoot w t ∧ Linked canonicalRoot w first t)
      fun _ => Plain canonicalRoot w := by
  have hread : ∀ t t', Same t t' → Guarantee canonicalRoot w t t' := fun _ _ => .inl
  -- the state that the calls which only read leave as it is
  have hstable : Stable (Rely canonicalRoot w others) fun t =>
      Directory t (packDirectory canonicalRoot w) ∧
        Staged limit root canonicalRoot w first (some (.file w.canonicalPack)) t :=
    (stable_directory stays_of_rely _).and (stable_staged hothers)
  have hplain : ∀ t, Directory t (packDirectory canonicalRoot w) ∧
      Staged limit root canonicalRoot w first (some (.file w.canonicalPack)) t →
      Plain canonicalRoot w t := fun t ht => ht.2.plain ht.1 (by simp [Node.kind])
  apply Triple.bind (writeFile_spec hsafe hothers)
  intro _
  apply Triple.bind (M := fun _ t => Directory t (packDirectory canonicalRoot w) ∧
    Staged limit root canonicalRoot w first (some (.file w.canonicalPack)) t)
  · have hassert := @assertExactRegularFile_spec limit (Rely canonicalRoot w others)
      (packDirectory canonicalRoot w) w.temporaryName stays_of_rely temporaryName_ne_dots
    apply (((hassert.frame hstable same_stable).mono hread).weaken
      fun t ht => ⟨ht.1, ht⟩).strengthen
    · exact fun _ _ h => h.2
    · exact fun _ t h => hplain t h.2
  intro _
  apply Triple.bind (M := fun _ t => Directory t (packDirectory canonicalRoot w) ∧
    Staged limit root canonicalRoot w first (some (.file w.canonicalPack)) t)
  · have hverify := @verifyManagedDirectoryChain_spec limit (Rely canonicalRoot w others) root
      canonicalRoot w.agentId stays_of_rely (ne_dots_of_isSafeSegment hsafe.1) w.managedSegments
      (managedSegments_ne_dots hsafe)
    apply (((hverify.frame hstable same_stable).mono hread).weaken
      fun t ht => ⟨ht.2.atRoot, ht⟩).strengthen
    · exact fun _ _ h => h.2
    · exact fun _ t h => hplain t h.2
  intro revalidatedDestination
  apply Triple.bind (M := fun _ t => Directory t (packDirectory canonicalRoot w) ∧
    Staged limit root canonicalRoot w first (some (.file w.canonicalPack)) t)
  · exact Triple.demand (fun _ _ => id) fun _ => hplain
  · exact fun _ => link_spec hsafe hothers

omit hsafe in
/-- A write in the midst of others: what it returns has been published. -/
theorem writeEvidencePackAtomic_spec :
    Triple (perform limit) (Rely canonicalRoot w others) (Guarantee canonicalRoot w)
      (Staged limit root canonicalRoot w first none) (writeEvidencePackAtomic root w)
      (fun rel t => rel = w.relativePath ∧ Published canonicalRoot w first t)
      fun _ _ => True := by
  have hstable := @stable_staged limit root canonicalRoot w others first none hothers
  unfold writeEvidencePackAtomic assertSafeSegment
  apply Triple.bind (M := fun _ t => isSafeSegment w.agentId = true ∧
    Staged limit root canonicalRoot w first none t)
  · exact Triple.demand (fun hc _ ht => ⟨hc, ht⟩) fun _ _ _ => trivial
  intro _
  apply Triple.assume
  intro hagent
  apply Triple.bind (M := fun _ t => isSafeSegment w.sessionId = true ∧
    Staged limit root canonicalRoot w first none t)
  · exact Triple.demand (fun hc _ ht => ⟨hc, ht⟩) fun _ _ _ => trivial
  intro _
  apply Triple.assume
  intro hsession
  apply Triple.bind (M := fun _ t => isSafeSegment w.assignmentId = true ∧
    Staged limit root canonicalRoot w first none t)
  · exact Triple.demand (fun hc _ ht => ⟨hc, ht⟩) fun _ _ _ => trivial
  intro _
  apply Triple.assume
  intro hassignment
  have hsafe : w.Safe := ⟨hagent, hsession, hassignment⟩
  have hread : ∀ t t', Same t t' → Guarantee canonicalRoot w t t' := fun _ _ => .inl
  -- the workspace
  apply Triple.bind (M := fun q t => q = workspaceOf canonicalRoot w ∧
    Directory t (workspaceOf canonicalRoot w) ∧
    Staged limit root canonicalRoot w first none t)
  · have hworkspace := @canonicalWorkspace_spec limit (Rely canonicalRoot w others) root
      canonicalRoot w.agentId stays_of_rely (ne_dots_of_isSafeSegment hagent)
    apply (((hworkspace.frame hstable same_stable).mono hread).weaken
      fun t ht => ⟨ht.atRoot, ht⟩).strengthen
    · exact fun _ _ h => ⟨h.1.1, h.1.2, h.2⟩
    · exact fun _ _ _ => trivial
  intro workspace
  apply Triple.assume
  rintro rfl
  -- the directories in it
  apply Triple.bind (M := fun _ t => Staged limit root canonicalRoot w first none t)
  · have hmake := @ensureExactDirectories_spec limit (Rely canonicalRoot w others)
      (Creates canonicalRoot w) (workspaceOf canonicalRoot w) stays_of_rely (fun _ => .inl rfl)
      true w.managedSegments (managedSegments_ne_dots hsafe)
      fun _ above name hfront t hnew => .inr ⟨_, ⟨above, name, hfront, rfl⟩, hnew, rfl⟩
    apply ((hmake.frame hstable creates_staged).mono ?_).strengthen
    · exact fun _ _ h => h.2
    · exact fun _ _ _ => trivial
    · intro t t' h
      rcases h with rfl | ⟨p, hmanaged, hnew, rfl⟩
      · exact .inl rfl
      · exact .inr ⟨hsafe, .directory hmanaged hnew⟩
  intro _
  apply Triple.bind (M := fun q t => q = packDirectory canonicalRoot w ∧
    Directory t (packDirectory canonicalRoot w) ∧
    Staged limit root canonicalRoot w first none t)
  · have hverify := @verifyManagedDirectoryChain_spec limit (Rely canonicalRoot w others) root
      canonicalRoot w.agentId stays_of_rely (ne_dots_of_isSafeSegment hagent) w.managedSegments
      (managedSegments_ne_dots hsafe)
    apply (((hverify.frame hstable same_stable).mono hread).weaken
      fun t ht => ⟨ht.atRoot, ht⟩).strengthen
    · exact fun _ _ h => ⟨h.1.1, h.1.2, h.2⟩
    · exact fun _ _ _ => trivial
  intro canonicalDestinationDirectory
  apply Triple.assume
  rintro rfl
  apply Triple.bind (M := fun _ => Published canonicalRoot w first)
  · apply ensuring_spec (publish_spec hsafe hothers)
    · apply ((rm_spec hsafe).frame (stable_linked hothers) linked_guarantee).strengthen
      · exact fun _ _ h => ⟨h.1.1, h.1.2, h.2⟩
      · exact fun _ _ _ => trivial
    · exact (rm_spec hsafe).strengthen (fun _ _ _ => trivial) fun _ _ _ => trivial
  · exact fun _ => Triple.pure fun t ht => ⟨rfl, ht⟩

end Write

/-! ## Many writes -/

section Writes

variable {ι : Type} {limit : Nat} {root canonicalRoot : Path} {writes : ι → Write}
  {first t t' : Tree}

/-- The temporary files of the other writes. -/
def others (canonicalRoot : Path) (writes : ι → Write) (i : ι) (p : Path) : Prop :=
  ∃ j, j ≠ i ∧ p = temporaryOf canonicalRoot (writes j)

theorem not_others_destinationOf (i : ι) :
    ¬ others canonicalRoot writes i (destinationOf canonicalRoot (writes i)) := by
  rintro ⟨j, -, h⟩
  exact temporaryOf_ne_destinationOf (writes i) h.symm

theorem rely_of_guarantee (hlength : ∀ i, (writes i).uuid.length = 36)
    (huuid : ∀ i j, (writes i).uuid = (writes j).uuid → i = j) {i j : ι} (hij : i ≠ j)
    (h : Guarantee canonicalRoot (writes j) t t') :
    Rely canonicalRoot (writes i) (others canonicalRoot writes i) t t' := by
  have htemporary : temporaryOf canonicalRoot (writes i) ≠ temporaryOf canonicalRoot (writes j) :=
    fun h => hij (huuid i j (uuid_eq_of_temporaryOf (hlength i) (hlength j) h))
  have hnew : ∀ {p : Path} {n : Node}, t p = none → temporaryOf canonicalRoot (writes i) ≠ p →
      Rely canonicalRoot (writes i) (others canonicalRoot writes i) t
        (Function.update t p (some n)) := by
    intro p n hnone hp
    refine ⟨stays_update (file_of_new hnone), fun q m hq _ => ?_, Function.update_of_ne hp ..⟩
    rwa [Function.update_of_ne]
    rintro rfl
    rw [hnone] at hq
    exact absurd hq (by simp)
  rcases h with rfl | ⟨-, hchange⟩
  · exact ⟨fun _ _ h _ => h, fun _ _ h _ => h, rfl⟩
  cases hchange with
  | none => exact ⟨fun _ _ h _ => h, fun _ _ h _ => h, rfl⟩
  | directory hmanaged hnone => exact hnew hnone (hmanaged.ne_temporaryOf (writes i))
  | temporary hn hold =>
    refine ⟨stays_update hold, fun q m hq hothers => ?_, Function.update_of_ne htemporary ..⟩
    rwa [Function.update_of_ne]
    rintro rfl
    exact hothers ⟨j, hij.symm, rfl⟩
  | published hnone => exact hnew hnone (temporaryOf_ne_destinationOf (writes j))

/-- An entry that a write has made. -/
inductive Made (canonicalRoot : Path) (w : Write) : Path → Node → Prop where
  | directory {p : Path} (hmanaged : Managed canonicalRoot w p) : Made canonicalRoot w p .directory
  | temporary (content : List Nat) :
      Made canonicalRoot w (temporaryOf canonicalRoot w) (.file content)
  | pack : Made canonicalRoot w (destinationOf canonicalRoot w) (.file w.canonicalPack)

/-- What was there is there, and the rest was made by the writes that are allowed. -/
def Grown (canonicalRoot : Path) (writes : ι → Write) (first t : Tree) : Prop :=
  (∀ p n, first p = some n → t p = some n) ∧
    ∀ p n, t p = some n →
      first p = some n ∨ ∃ i, (writes i).Safe ∧ Made canonicalRoot (writes i) p n

theorem Grown.update {p : Path} {n : Option Node} {i : ι}
    (ht : Grown canonicalRoot writes first t) (hsafe : (writes i).Safe)
    (hfirst : first p = none) (hmade : ∀ x ∈ n, Made canonicalRoot (writes i) p x) :
    Grown canonicalRoot writes first (Function.update t p n) := by
  constructor
  · intro q m hq
    rw [Function.update_of_ne]
    · exact ht.1 q m hq
    · rintro rfl
      rw [hfirst] at hq
      exact absurd hq (by simp)
  · intro q m hq
    by_cases h : q = p
    · subst h
      rw [Function.update_self] at hq
      exact .inr ⟨i, hsafe, hmade m hq⟩
    · rw [Function.update_of_ne h] at hq
      exact ht.2 q m hq

theorem grown_guarantee
    (hfresh : ∀ i, first (temporaryOf canonicalRoot (writes i)) = none) (i : ι) :
    Stable (Guarantee canonicalRoot (writes i)) (Grown canonicalRoot writes first) := by
  intro t t' ht h
  have hfirst : ∀ {p : Path}, t p = none → first p = none := by
    intro p hp
    cases hq : first p with
    | none => rfl
    | some n =>
      rw [ht.1 p n hq] at hp
      exact absurd hp (by simp)
  rcases h with rfl | ⟨hsafe, hchange⟩
  · exact ht
  cases hchange with
  | none => exact ht
  | directory hmanaged hnew =>
    apply ht.update hsafe (hfirst hnew)
    simpa using .directory hmanaged
  | temporary hn _ =>
    apply ht.update hsafe (hfresh i)
    intro n hmem
    cases n with
    | file content => exact .temporary content
    | directory | symlink => exact absurd (hn _ hmem) (by simp [Node.kind])
  | published hnew =>
    apply ht.update hsafe (hfirst hnew)
    simpa using .pack

/-- The writes before their first call. -/
def start (root : Path) (writes : ι → Write) (t : Tree) :
    System ι Call Answer Tree (Except FsError String) :=
  { shared := t, programs := fun i => (writeEvidencePackAtomic root (writes i)).run }

/-- Evidence packs that are written at the same time, in any order and with any
failures. Nothing that was there is replaced or removed. What is new is a managed
directory of a workspace, a whole pack at the path of its assignment, or a temporary
file. A write that returns has published its pack, at a path that was free. -/
theorem writes_published [DecidableEq ι] (hlength : ∀ i, (writes i).uuid.length = 36)
    (huuid : ∀ i j, (writes i).uuid = (writes j).uuid → i = j)
    (hfresh : ∀ i, first (temporaryOf canonicalRoot (writes i)) = none)
    (hroot : AtRoot limit root canonicalRoot first) {calls : List (ι × Luck)}
    {s : System ι Call Answer Tree (Except FsError String)}
    (hrun : Runs.run (step (perform limit)) (start root writes first) calls = some s) :
    Grown canonicalRoot writes first s.shared ∧
      ∀ i relativePath, s.programs i = .done (.ok relativePath) →
        relativePath = (writes i).relativePath ∧
          Published canonicalRoot (writes i) first s.shared := by
  have hgoing : Going (perform limit)
      (fun i => Rely canonicalRoot (writes i) (others canonicalRoot writes i))
      (fun i => Guarantee canonicalRoot (writes i))
      (fun i => Ends (fun rel t => rel = (writes i).relativePath ∧
        Published canonicalRoot (writes i) first t) fun _ _ => True)
      (start root writes first) := by
    intro i
    have hothers := @not_others_destinationOf ι canonicalRoot writes i
    refine ⟨_, stable_staged hothers, ?_, writeEvidencePackAtomic_spec hothers⟩
    exact ⟨hroot, hfresh i, fun _ => id⟩
  have hgrown : Grown canonicalRoot writes first first := ⟨fun _ _ => id, fun _ _ => .inl⟩
  have hrely : ∀ i j, i ≠ j → ∀ t t', Guarantee canonicalRoot (writes j) t t' →
      Rely canonicalRoot (writes i) (others canonicalRoot writes i) t t' :=
    fun i j hij t t' => rely_of_guarantee hlength huuid hij
  obtain ⟨hends, hafter⟩ := going_run hrely (grown_guarantee hfresh) hgoing hgrown hrun
  refine ⟨hafter, fun i relativePath hi => ?_⟩
  exact hends.ended hi

end Writes

/-! ### Two writes of one assignment -/

namespace WriteSample

def root : Path := ["data"]

def canonicalRoot : Path := ["srv"]

def entries : List (Path × Node) :=
  [(["data"], .symlink { absolute := true, names := ["srv"] }), (["srv"], .directory),
    (["srv", "agent-1"], .directory), (["srv", "agent-1", "AGENTS.md"], .file [35])]

def first : Tree := fun p => entries.lookup p

def writes (second : Bool) : Write where
  agentId := "agent-1"
  sessionId := "session-4"
  role := .budget
  assignmentId := "assignment-9"
  canonicalPack := if second then [2] else [1]
  uuid := if second then "0a6e3c52-1f7b-4d0e-9b21-5c8f7a3e6d10"
    else "9b1d7f04-6c2a-4e85-a3f9-2d5e8c7b4a61"

/-- The calls of both writes in turn. -/
def calls : List (Bool × Luck) := (List.range 94).map fun i => (i % 2 = 1, .works)

def after : Option (System Bool Call Answer Tree (Except FsError String)) :=
  Runs.run (step (perform 20)) (start root writes first) calls

def returned (second : Bool) (s : System Bool Call Answer Tree (Except FsError String)) :
    Option String :=
  match s.programs second with
  | .done (.ok relativePath) => some relativePath
  | _ => none

theorem done_of_returned {second : Bool} {relativePath : String}
    {s : System Bool Call Answer Tree (Except FsError String)}
    (h : returned second s = some relativePath) : s.programs second = .done (.ok relativePath) := by
  unfold returned at h
  split at h
  · rename_i hdone
    rw [hdone, Option.some.inj h]
  · exact absurd h (by simp)

end WriteSample

open WriteSample in
theorem writes_published_sample : ∃ s,
    Runs.run (step (perform 20)) (start root writes first) calls = some s ∧
      Grown canonicalRoot writes first s.shared ∧
      Published canonicalRoot (writes false) first s.shared := by
  have hreturned : after.bind (returned false) =
      some ".epochguard/sessions/session-4/budget/assignment-9.json" := by decide +kernel
  obtain ⟨s, hrun, hs⟩ := Option.bind_eq_some_iff.mp hreturned
  have hdirectory : AtRoot 20 root canonicalRoot first := by
    refine ⟨by decide, @directory_append_singleton first [] "srv" |>.mpr ?_⟩
    exact ⟨directory_nil first, by decide, by decide⟩
  obtain ⟨hgrown, hends⟩ := @writes_published Bool 20 root canonicalRoot writes first _
    (by decide) (by decide) (by decide) hdirectory calls s hrun
  exact ⟨s, hrun, hgrown, (hends false _ (done_of_returned hs)).2⟩

end Workspace

end EpochGuard
