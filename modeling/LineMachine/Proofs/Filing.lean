import LineMachine.Proofs.Calls
import Mathlib.Data.List.Induction
import Mathlib.Tactic.SplitIfs

namespace LineMachine

namespace Files

/-- The entry that was put in is found, and all others are found as before. -/
theorem lookup?_put (files : Files) {location : Location}
    (inner : ¬ location <+: files.workingDirectory) (entry : FileEntry) (other : Location) :
    (files.put location entry).lookup? other =
      if other = location then some entry else files.lookup? other := by
  have remaining (entries : List (Location × FileEntry)) (different : other ≠ location) :
      (entries.filter (·.1 != location)).lookup other = entries.lookup other := by
    induction entries with
    | nil => rfl
    | cons first rest inductionHypothesis =>
      obtain ⟨place, held⟩ := first
      by_cases removed : place = location
      · have missed : (other == place) = false := by simp [removed, different]
        simp [removed, List.lookup_cons, inductionHypothesis, removed ▸ missed]
      · simp [removed, List.lookup_cons, inductionHypothesis]
  have gone (entries : List (Location × FileEntry)) :
      (entries.filter (·.1 != location)).lookup location = none := by
    rw [List.lookup_eq_none_iff]
    intro held member
    exact bne_iff_ne.mpr (bne_iff_ne.mp (List.mem_filter.mp member).2).symm
  by_cases same : other = location
  · subst same
    simp [put, lookup?, inner, List.lookup_append, gone]
  · have missed : [(location, entry)].lookup other = none := by simp [List.lookup_eq_none_iff, same]
    simp [put, lookup?, same, remaining files.entries same, List.lookup_append, missed]

/-- What is free or a file is not above the working directory. -/
theorem not_prefix_of_lookup? {files : Files} {location : Location}
    (free : files.lookup? location ≠ some .directory) :
    ¬ location <+: files.workingDirectory := by
  intro above
  exact free (if_pos (List.isPrefixOf_iff_prefix.mpr above))

/-- What may become of an entry: it stays, a directory is made where there was nothing, or a file is
written where there was no directory, if this is a place that is written. -/
inductive Becomes (written : Prop) : Option FileEntry → Option FileEntry → Prop
  | kept (entry : Option FileEntry) : Becomes written entry entry
  | made : Becomes written none (some .directory)
  | replaced {entry : Option FileEntry} (here : written) (free : entry ≠ some .directory)
      (content : Text) : Becomes written entry (some (.file content))

/-- One file system has become another, with files written at some places only. -/
structure Grows (written : Location → Prop) (files later : Files) : Prop where
  entries : ∀ location,
    Becomes (written location) (files.lookup? location) (later.lookup? location)
  workingDirectory : later.workingDirectory = files.workingDirectory

namespace Grows

variable {written : Location → Prop} {files later last : Files}

theorem refl (files : Files) : Grows written files files := ⟨fun _ => .kept _, rfl⟩

theorem trans (before : Grows written files later) (after : Grows written later last) :
    Grows written files last := by
  refine ⟨fun location => ?_, after.workingDirectory.trans before.workingDirectory⟩
  have earlier := before.entries location
  have further := after.entries location
  generalize files.lookup? location = first at earlier
  generalize later.lookup? location = second at earlier further
  generalize last.lookup? location = third at further
  cases earlier with
  | kept => exact further
  | made =>
    cases further with
    | kept => exact .made
    | replaced _ free => exact absurd rfl free
  | replaced here free content =>
    cases further with
    | kept => exact .replaced here free content
    | replaced _ _ rewritten => exact .replaced here free rewritten

theorem mono {more : Location → Prop} (grows : Grows written files later)
    (included : ∀ location, written location → more location) : Grows more files later := by
  refine ⟨fun location => ?_, grows.workingDirectory⟩
  have becomes := grows.entries location
  generalize files.lookup? location = first at becomes ⊢
  generalize later.lookup? location = second at becomes ⊢
  cases becomes with
  | kept => exact .kept _
  | made => exact .made
  | replaced here free content => exact .replaced (included location here) free content

theorem directory (grows : Grows written files later) {location : Location}
    (found : files.lookup? location = some .directory) :
    later.lookup? location = some .directory := by
  have becomes := grows.entries location
  rw [found] at becomes
  generalize later.lookup? location = current at becomes
  cases becomes with
  | kept => rfl
  | replaced _ free => exact absurd rfl free

theorem file (grows : Grows written files later) {location : Location} {content : Text}
    (found : files.lookup? location = some (.file content)) :
    ∃ current, later.lookup? location = some (.file current) := by
  have becomes := grows.entries location
  rw [found] at becomes
  generalize later.lookup? location = current at becomes
  cases becomes with
  | kept => exact ⟨content, rfl⟩
  | replaced _ _ current => exact ⟨current, rfl⟩

/-- A file at a place that is not written was there before. -/
theorem unwritten (grows : Grows written files later) {location : Location} {content : Text}
    (apart : ¬ written location) (found : later.lookup? location = some (.file content)) :
    files.lookup? location = some (.file content) := by
  have becomes := grows.entries location
  rw [found] at becomes
  generalize files.lookup? location = earlier at becomes
  cases becomes with
  | kept => rfl
  | replaced here => exact absurd here apart

/-- A walk that meets everything it looks for goes the same way afterwards. -/
theorem walk (grows : Grows written files later) {here : Location} {names : List Text}
    (found : files.walk here names ≠ .error .notFound) :
    later.walk here names = files.walk here names := by
  induction names generalizing here with
  | nil => rfl
  | cons name rest inductionHypothesis =>
    rw [Files.walk] at found ⊢
    cases held : files.lookup? here with
    | none =>
      rw [held] at found
      exact absurd rfl found
    | some entry =>
      cases entry with
      | file content =>
        obtain ⟨current, stillHeld⟩ := grows.file held
        rw [stillHeld]
        simp only [Files.walk, held]
      | directory =>
        rw [grows.directory held]
        simp only [Files.walk, held] at found ⊢
        split_ifs at found ⊢ with blank up long
        · exact inductionHypothesis found
        · exact inductionHypothesis found
        · rfl
        · exact inductionHypothesis found

theorem beginning (grows : Grows written files later) (path : Text) :
    later.beginning path = files.beginning path := by
  rw [Files.beginning, Files.beginning, grows.workingDirectory]

theorem locate (grows : Grows written files later) {path : Text}
    (found : files.locate path ≠ .error .notFound) : later.locate path = files.locate path := by
  rw [Files.locate] at found ⊢
  rw [Files.locate, grows.beginning]
  split_ifs at found ⊢ with invalid empty long
  · rfl
  · rfl
  · rfl
  · exact grows.walk found

end Grows

/-- A directory that is made where there was nothing changes nothing else. -/
theorem grows_put_directory (written : Location → Prop) {files : Files} {location : Location}
    (free : files.lookup? location = none) :
    Grows written files (files.put location .directory) := by
  refine ⟨fun other => ?_, rfl⟩
  rw [lookup?_put files (not_prefix_of_lookup? (by simp [free]))]
  split
  · rename_i same
    rw [same, free]
    exact .made
  · exact .kept _

/-- Directories that are made one after another change nothing else. -/
theorem grows_makeEach (written : Location → Prop) (names : List Text) (files : Files)
    (here : Location) : Grows written files (files.makeEach here names).1 := by
  induction names generalizing files here with
  | nil => exact .refl files
  | cons name rest inductionHypothesis =>
    rw [makeEach]
    split
    · exact inductionHypothesis files here
    · split
      · exact inductionHypothesis files here.dropLast
      · dsimp only
        split
        · exact inductionHypothesis files _
        · exact .refl files
        · rename_i free
          split
          · exact .refl files
          · exact (grows_put_directory written free).trans (inductionHypothesis _ _)

theorem grows_makeDirectories (written : Location → Prop) (files : Files) (path : Text) :
    Grows written files (files.makeDirectories path).1 := by
  rw [makeDirectories]
  split
  · exact .refl files
  · exact grows_makeEach written _ files _

/-- Writing a file changes the place that its path leads to, which is no directory. -/
theorem grows_write {files later : Files} {path content : Text}
    (wrote : files.write path content = .ok later) :
    ∃ location, files.locate path = .ok location ∧ Grows (· = location) files later := by
  rw [write] at wrote
  split at wrote
  · contradiction
  · rename_i location reached
    split at wrote
    · contradiction
    · rename_i allowed
      obtain rfl := Except.ok.inj wrote
      have free : files.lookup? location ≠ some .directory := by
        intro directory
        simp [directory] at allowed
      refine ⟨location, reached, fun other => ?_, rfl⟩
      rw [lookup?_put files (not_prefix_of_lookup? free)]
      split
      · rename_i same
        subst same
        exact .replaced rfl free content
      · exact .kept _

/-- The directory of every entry is there. -/
def IsRooted (files : Files) : Prop :=
  ∀ location name, files.lookup? (location ++ [name]) ≠ none →
    files.lookup? location = some .directory

/-- All directories above an entry are there. -/
theorem IsRooted.above {files : Files} (rooted : files.IsRooted) {location place : Location}
    (present : files.lookup? location ≠ none) (higher : place <+: location)
    (different : place ≠ location) : files.lookup? place = some .directory := by
  induction location using List.reverseRecOn with
  | nil => exact absurd (List.prefix_nil.mp higher) different
  | append_singleton location name inductionHypothesis =>
    have holds := rooted location name present
    rcases List.prefix_concat_iff.mp higher with same | inside
    · exact absurd same different
    · by_cases direct : place = location
      · rw [direct, holds]
      · exact inductionHypothesis (by simp [holds]) inside direct

/-- A walk that does not climb leads downwards. -/
theorem walk_downwards {files : Files} {names : List Text} (straight : utf8 ".." ∉ names)
    {here location : Location} (walked : files.walk here names = .ok location) :
    here <+: location := by
  induction names generalizing here with
  | nil =>
    obtain rfl := Except.ok.inj walked
    exact List.prefix_refl here
  | cons name rest inductionHypothesis =>
    have onward := List.ne_of_not_mem_cons straight
    have straight := List.not_mem_of_not_mem_cons straight
    rw [walk] at walked
    split at walked
    · contradiction
    · contradiction
    · split_ifs at walked with blank up
      · exact inductionHypothesis straight walked
      · exact absurd (eq_of_beq up).symm onward
      · exact (List.prefix_append here [name]).trans (inductionHypothesis straight walked)

/-- A walk that does not climb goes the same way in any file system with the same directories above
its end. -/
theorem walk_of_above {files later : Files} {location : Location}
    (above : ∀ place, place <+: location → place ≠ location →
      files.lookup? place = some .directory)
    (ends : later.lookup? location ≠ some .directory) {names : List Text}
    (straight : utf8 ".." ∉ names) {here : Location}
    (walked : later.walk here names = .ok location) : files.walk here names = .ok location := by
  induction names generalizing here with
  | nil => exact walked
  | cons name rest inductionHypothesis =>
    have downwards := walk_downwards straight walked
    have onward := List.ne_of_not_mem_cons straight
    have straight := List.not_mem_of_not_mem_cons straight
    rw [walk] at walked
    split at walked
    · contradiction
    · contradiction
    · rename_i directory
      have higher : here ≠ location := by
        rintro rfl
        exact ends directory
      rw [walk, above here downwards higher]
      simp only
      split_ifs at walked ⊢ with blank up
      · exact inductionHypothesis straight walked
      · exact absurd (eq_of_beq up).symm onward
      · exact inductionHypothesis straight walked

/-- A path that does not climb leads to an entry that was there before only if it did so before. -/
theorem IsRooted.locate {files later : Files} (rooted : files.IsRooted) {path : Text}
    (same : later.beginning path = files.beginning path)
    (straight : utf8 ".." ∉ Path.names path) {location : Location}
    (present : files.lookup? location ≠ none) (ends : later.lookup? location ≠ some .directory)
    (reached : later.locate path = .ok location) : files.locate path = .ok location := by
  rw [Files.locate] at reached ⊢
  rw [same] at reached
  split_ifs at reached ⊢
  exact walk_of_above (fun place => rooted.above present) ends straight reached

/-- A path leads to a file with some content. -/
def Holds (files : Files) (path content : Text) : Prop :=
  ∃ location, files.locate path = .ok location ∧
    files.lookup? location = some (.file content)

/-- What can be read is what a path holds. -/
theorem storage_read_iff {files : Files} {path content : Text} :
    ((storage.read path).run files).1 = .ok content ↔ files.Holds path content := by
  have got : ((storage.read path).run files).1 = Delivery.whole path (files.fetch path) := rfl
  rw [got, fetch, Holds]
  cases reached : files.locate path with
  | error failure => simp [Delivery.whole]
  | ok location =>
    cases held : files.lookup? location with
    | none => simp [Delivery.whole, held]
    | some entry =>
      cases entry with
      | directory => simp [Delivery.whole, held]
      | file current => simp [Delivery.whole, held]

section

variable {written : Location → Prop} {files later : Files} {path content : Text}

/-- A path that leads to no written place holds what it held before. -/
theorem Grows.holds (grows : Grows written files later)
    (apart : ∀ location, later.locate path = .ok location → ¬ written location)
    (holds : files.Holds path content) : later.Holds path content := by
  obtain ⟨location, reached, held⟩ := holds
  have stillReached : later.locate path = .ok location := by
    rw [grows.locate (by simp [reached]), reached]
  have becomes := grows.entries location
  rw [held] at becomes
  generalize found : later.lookup? location = current at becomes
  cases becomes with
  | kept => exact ⟨location, stillReached, found⟩
  | replaced here => exact absurd here (apart location stillReached)

/-- What a path that leads to no written place holds was there before. A path that was lost before
must not climb, for a directory that it climbs from may have been made. -/
theorem Grows.held (grows : Grows written files later)
    (apart : ∀ location, later.locate path = .ok location → ¬ written location)
    (findable : files.locate path = .error .notFound →
      files.IsRooted ∧ utf8 ".." ∉ Path.names path)
    (holds : later.Holds path content) : files.Holds path content := by
  obtain ⟨location, reached, held⟩ := holds
  have heldBefore := grows.unwritten (apart location reached) held
  by_cases lost : files.locate path = .error .notFound
  · obtain ⟨rooted, straight⟩ := findable lost
    have found := rooted.locate (grows.beginning path) straight (by simp [heldBefore])
      (by simp [held]) reached
    rw [lost] at found
    contradiction
  · rw [grows.locate lost] at reached
    exact ⟨location, reached, heldBefore⟩

end

/-- Storing a file writes it or leaves everything as it is. -/
theorem storage_write (files : Files) (path content : Text) :
    ((storage.write path content).run files).2 = files ∨
      files.write path content = .ok ((storage.write path content).run files).2 := by
  cases wrote : files.write path content with
  | ok later =>
    simp only [storage, StateT.run_bind, StateT.run_get, pure_bind, wrote]
    exact .inr rfl
  | error failure =>
    simp only [storage, StateT.run_bind, StateT.run_get, pure_bind, wrote]
    exact .inl rfl

/-- Two paths lead to the same place. -/
def Same (files : Files) (first second : Text) : Prop :=
  ∃ location, files.locate first = .ok location ∧ files.locate second = .ok location

end Files

namespace Cli.Configuration

/-- Loading a configuration leaves the files as they are, or makes the directories of its file, or
makes the file in them too. -/
theorem load_files (decode : Decoder) (path : Text) (files : Files) :
    let reached := ((load decode Files.storage path).run files).2
    let prepared := (files.makeDirectories (Path.parent path)).1
    reached = files ∨ reached = prepared ∨
      prepared.write path initialConfiguration = .ok reached := by
  intro reached prepared
  have loaded : reached = ((load decode Files.storage path).run files).2 := rfl
  rw [load] at loaded
  split at loaded
  · exact .inl loaded
  · have got : (Files.storage.fetch path).run files = (files.fetch path, files) := rfl
    rw [run_then, got] at loaded
    cases fetched : files.fetch path with
    | ok delivery =>
      rw [fetched] at loaded
      exact .inl loaded
    | error failure =>
      rw [fetched] at loaded
      cases failure with
      | notFound =>
        right
        have made : (Files.storage.makeDirectories (Path.parent path)).run files =
            ((files.makeDirectories (Path.parent path)).2, prepared) := rfl
        simp only [run_then, made] at loaded
        split at loaded
        · rw [loaded]
          exact prepared.storage_write path initialConfiguration
        · exact .inl loaded
      | _ => exact .inl loaded

/-- Loading a configuration writes at most its own file, and makes directories. -/
theorem grows_load (decode : Decoder) (path : Text) (files : Files) :
    let reached := ((load decode Files.storage path).run files).2
    files.Grows (fun location => reached.locate path = .ok location) reached := by
  intro reached
  have prepared := Files.grows_makeDirectories
    (fun location => reached.locate path = .ok location) files (Path.parent path)
  rcases load_files decode path files with unchanged | unwritten | wrote
  · rw [show reached = files from unchanged]
    exact .refl files
  · rwa [← unwritten] at prepared
  · obtain ⟨location, located, grows⟩ := Files.grows_write wrote
    have stillLocated : reached.locate path = .ok location := by
      rw [← located]
      exact grows.locate (by simp [located])
    refine prepared.trans (grows.mono ?_)
    rintro place rfl
    exact stillLocated

/-- Loading a configuration does not change the file of a path that does not lead to it. -/
theorem load_read (decode : Decoder) (path config : Text) (files : Files) :
    let reached := ((load decode Files.storage config).run files).2
    let read (files : Files) := ((Files.storage.read path).run files).1
    ¬ reached.Same path config → ∀ content,
      (read files = .ok content → read reached = .ok content) ∧
      ((files.locate path = .error .notFound →
          files.IsRooted ∧ utf8 ".." ∉ Path.names path) →
        read reached = .ok content → read files = .ok content) := by
  intro reached read apart content
  have grows := grows_load decode config files
  have unwritten : ∀ location, reached.locate path = .ok location →
      ¬ reached.locate config = .ok location :=
    fun location led leads => apart ⟨location, led, leads⟩
  constructor
  · intro readable
    exact Files.storage_read_iff.mpr
      (grows.holds unwritten (Files.storage_read_iff.mp readable))
  · intro findable readable
    exact Files.storage_read_iff.mpr
      (grows.held unwritten findable (Files.storage_read_iff.mp readable))

/-- A lost path that climbs from the directory of a new configuration. -/
example :
    let files : Files := ⟨[([utf8 "p.ppl"], .file (utf8 "HLT"))], []⟩
    let decode : Decoder := fun configuration _ _ => .ok configuration
    let reached := ((load decode Files.storage (utf8 "/new/c.yaml")).run files).2
    files.locate (utf8 "new/../p.ppl") = .error .notFound ∧
      ((Files.storage.read (utf8 "new/../p.ppl")).run reached).1 = .ok (utf8 "HLT") := by
  decide +kernel

end Cli.Configuration
end LineMachine
