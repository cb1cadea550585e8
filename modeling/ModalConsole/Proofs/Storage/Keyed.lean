import ModalConsole.Proofs.Storage.FileName
import ModalConsole.Proofs.Storage.Store

/-!
# A store in a directory keeps a text for each file name

Two paths with the same file name are one and the same to a store in a directory, and nothing else
about a path counts.

* `Disk.Serves`: what is taken for granted of the disk, which the store keeps (`Serves.access`).
* `Serves.run`: so after any accesses, a file holds the last text that was written under its name,
  and nothing else has changed. `replies_eq`: the replies are those of a store in memory that is
  asked for the file name instead of the path.
* `read_congr`, `write_changesOnly`: a read looks at one file directly inside the directory and a
  write changes one, whatever the path and the disk.
* **`keyed_by_fileName`**: all this together.
-/

namespace ModalConsole

/-- What a store is asked for. -/
inductive Access where
  | write (path content : String)
  | read (path : String)

/-- What a store answers. -/
inductive Reply where
  | written (refusal : Option StoreError)
  | found (result : Except StoreError (Option String))

namespace Access

/-- The path that is written or read. -/
def path : Access → String
  | write path _ => path
  | read path => path

/-- The same access under the file name instead of the path. -/
def byName : Access → Access
  | write path content => write (fileName path) content
  | read path => read (fileName path)

/-- The refusal of a path without a file name in it. -/
def refused : Access → Reply
  | write path _ => .written (some (.invalidPath path))
  | read path => .found (.error (.invalidPath path))

/-- The text that is written under a file name. -/
def written (name : String) : Access → Option String
  | write path content => if fileName path = name then some content else none
  | read _ => none

/-- The place in a directory that is written to. -/
def WritesTo (directory : Place) (a : Access) (place : Place) : Prop :=
  ∃ path content, a = write path content ∧ fileName path ≠ "" ∧
    place = directory ++ [fileName path]

end Access

/-- The last text that is written under a file name. -/
def lastWritten (accesses : List Access) (name : String) : Option String :=
  (accesses.filterMap (Access.written name)).getLast?

theorem lastWritten_cons (a : Access) (accesses : List Access) (name : String) :
    lastWritten (a :: accesses) name = (lastWritten accesses name).or (a.written name) := by
  unfold lastWritten
  cases hwritten : a.written name with
  | none => rw [List.filterMap_cons_none hwritten, Option.or_none]
  | some content =>
    rw [List.filterMap_cons_some hwritten, List.getLast?_cons]
    cases (accesses.filterMap (Access.written name)).getLast? <;> rfl

namespace Store

/-- Serves an access: the store afterwards and its reply. -/
def access (store : Store) : Access → Store × Reply
  | .write path content =>
    ((store.write path content).1, .written (store.write path content).2)
  | .read path => (store, .found (store.read path))

/-- Serves an access under the file name, and refuses a path without one. -/
def accessByName (store : Store) (a : Access) : Store × Reply :=
  if fileName a.path = "" then (store, a.refused) else store.access a.byName

/-- Serves accesses one after the other: the store afterwards and the replies. -/
def run (serve : Store → Access → Store × Reply) (store : Store) :
    List Access → Store × List Reply
  | [] => (store, [])
  | a :: rest =>
    let later := run serve (serve store a).1 rest
    (later.1, (serve store a).2 :: later.2)

end Store

namespace Disk

/-- What a store in the directory `root` takes for granted of a disk and of the paths it is asked
for. -/
structure Serves (root : String) (paths : List String) (d made : Disk) : Prop where
  /-- The directory can be made. -/
  makes : d.makeDirectories root = some made
  /-- Neither the name of a file nor the path of the file is too long. -/
  short : ∀ path ∈ paths, fileName path ≠ "" →
    (fileName path).utf8ByteSize ≤ longestName ∧
      (joinPath root (fileName path)).utf8ByteSize ≤ longestPath
  /-- No directory has the name of a file. -/
  file : ∀ path ∈ paths, fileName path ≠ "" →
    made.read? root (fileName path) ≠ some .directory
  /-- Seen as a map from paths to files, the disk stays as it is when the directory is made: no file
  comes to light in it. -/
  settled : ∀ path ∈ paths, fileName path ≠ "" →
    made.read? root (fileName path) = d.read? root (fileName path)

variable {root path content : String} {paths : List String} {d made : Disk} {directory : Place}
  {accesses : List Access}

namespace Serves

section

variable
  (short : ∀ path ∈ paths, fileName path ≠ "" →
    (fileName path).utf8ByteSize ≤ longestName ∧
      (joinPath root (fileName path)).utf8ByteSize ≤ longestPath)
  (file : ∀ path ∈ paths, fileName path ≠ "" → made.read? root (fileName path) ≠ some .directory)

include short file

/-- Where the directory is there, nothing has to be made. -/
theorem of_directoryAt? (hdirectory : made.directoryAt? root = some directory) :
    Serves root paths made made where
  makes := makeDirectories_of_directoryAt? hdirectory
  short := short
  file := file
  settled := fun _ _ _ => rfl

/-- On a tree, a directory that is only reached downwards is made without a file in it. -/
theorem of_isTree (htree : d.IsTree) (hdown : PathStep.up ∉ pathSteps root)
    (makes : d.makeDirectories root = some made) : Serves root paths d made where
  makes := makes
  short := short
  file := file
  settled := fun path hpath hname => read?_makeDirectories htree hdown makes (file path hpath hname)

end

theorem placeIn?_eq (h : Serves root paths d made)
    (hdirectory : made.directoryAt? root = some directory) (hpath : path ∈ paths)
    (hname : fileName path ≠ "") :
    made.placeIn? root (fileName path) = some (directory ++ [fileName path]) := by
  obtain ⟨hshort, hshortPath⟩ := h.short path hpath hname
  have hroot := (directoryAt?_eq_some.mp hdirectory).1
  exact placeIn?_eq_some.mpr
    ⟨isUsablePath_joinPath_fileName hroot hshortPath, directory, hdirectory, hshort, rfl⟩

theorem hasDirectory_eq_false (h : Serves root paths d made)
    (hdirectory : made.directoryAt? root = some directory) (hpath : path ∈ paths)
    (hname : fileName path ≠ "") : made.hasDirectory (directory ++ [fileName path]) = false := by
  have hfile := h.file path hpath hname
  rw [read?, h.placeIn?_eq hdirectory hpath hname, Option.bind_some] at hfile
  rw [hasDirectory, beq_eq_false_iff_ne]
  exact hfile

/-- What is read after a text has been put into a file. -/
theorem read?_put (h : Serves root paths d made)
    (hdirectory : made.directoryAt? root = some directory) (hpath : path ∈ paths)
    (hname : fileName path ≠ "") (content name : String) :
    (made.put (directory ++ [fileName path]) (.text content)).read? root name =
      if name = fileName path then some (.text content) else made.read? root name := by
  have hfree := h.hasDirectory_eq_false hdirectory hpath hname
  rw [read?, placeIn?_congr (hasDirectory_put_text hfree content)]
  split_ifs with hsame
  · rw [hsame, h.placeIn?_eq hdirectory hpath hname, Option.bind_some,
      find?_put_self made (by simp)]
  · rw [read?]
    cases hplace : made.placeIn? root name with
    | none => rfl
    | some place =>
      obtain ⟨-, directory', hdirectory', -, rfl⟩ := placeIn?_eq_some.mp hplace
      obtain rfl := Option.some.inj (hdirectory.symm.trans hdirectory')
      simp only [Option.bind_some]
      exact find?_put_of_ne made (by simpa using hsame) _

/-- A text is put into the file, and the disk goes on serving. -/
theorem write (h : Serves root paths d made) (hdirectory : made.directoryAt? root = some directory)
    (hpath : path ∈ paths) (hname : fileName path ≠ "") (content : String) :
    let written := made.put (directory ++ [fileName path]) (.text content)
    (Store.directory root d).write path content = (.directory root written, none) ∧
      Serves root paths written written ∧ written.directoryAt? root = some directory := by
  intro written
  have hfree := h.hasDirectory_eq_false hdirectory hpath hname
  have hroot : written.directoryAt? root = some directory :=
    (directoryAt?_congr (hasDirectory_put_text hfree content) root).trans hdirectory
  have hwrite : made.write? root (fileName path) content = some written :=
    write?_eq_some.mpr ⟨_, h.placeIn?_eq hdirectory hpath hname, hfree, rfl⟩
  refine ⟨?_, of_directoryAt? h.short (fun other hother hotherName => ?_) hroot, hroot⟩
  · simp only [Store.write, String.isEmpty_iff, if_neg hname, Store.writeInto, h.makes, hwrite]
  · rw [h.read?_put hdirectory hpath hname]
    split_ifs
    · simp
    · exact h.file other hother hotherName

/-- **What an access does**, whatever is asked for: the disk goes on serving, the files are those
from before but for the text that is written, and nothing else has changed. -/
theorem access (h : Serves root paths d made) (hdirectory : made.directoryAt? root = some directory)
    {a : Access} (ha : a.path ∈ paths) :
    ∃ disk made', ((Store.directory root d).access a).1 = .directory root disk ∧
      Serves root paths disk made' ∧ made'.directoryAt? root = some directory ∧
      (∀ path ∈ paths, fileName path ≠ "" → disk.read? root (fileName path) =
        ((a.written (fileName path)).map .text).or (d.read? root (fileName path))) ∧
      d.ChangesOnly (a.WritesTo directory) disk := by
  cases a with
  | read path =>
    exact ⟨d, made, rfl, h, hdirectory, fun _ _ _ => by simp [Access.written], .refl _ d⟩
  | write path content =>
    by_cases hname : fileName path = ""
    · refine ⟨d, made, ?_, h, hdirectory, fun other _ hother => ?_, .refl _ d⟩
      · simp [Store.access, Store.write, hname]
      · have hne : fileName path ≠ fileName other := fun hsame => hother (hsame ▸ hname)
        simp [Access.written, hne]
    · have hpath : path ∈ paths := ha
      obtain ⟨hwrite, hserves, hroot⟩ := h.write hdirectory hpath hname content
      refine ⟨_, _, by rw [Store.access, hwrite], hserves, hroot, fun other hother hotherName => ?_,
        ?_⟩
      · rw [h.read?_put hdirectory hpath hname, Access.written, h.settled other hother hotherName]
        by_cases hsame : fileName other = fileName path
        · simp [hsame]
        · simp [hsame, Ne.symm hsame]
      · refine ((grows_makeDirectories h.makes).changesOnly _).trans ?_
        refine (changesOnly_put made _ _).mono fun place hplace => ?_
        exact ⟨path, content, rfl, hname, hplace⟩

/-- **What accesses do**, one after the other. -/
theorem run (h : Serves root paths d made) (hdirectory : made.directoryAt? root = some directory)
    (ha : ∀ a ∈ accesses, a.path ∈ paths) :
    ∃ disk made', (Store.run Store.access (.directory root d) accesses).1 = .directory root disk ∧
      Serves root paths disk made' ∧ made'.directoryAt? root = some directory ∧
      (∀ path ∈ paths, fileName path ≠ "" → disk.read? root (fileName path) =
        ((lastWritten accesses (fileName path)).map .text).or (d.read? root (fileName path))) ∧
      d.ChangesOnly (fun place => ∃ a ∈ accesses, a.WritesTo directory place) disk := by
  induction accesses generalizing d made with
  | nil =>
    exact ⟨d, made, rfl, h, hdirectory, fun _ _ _ => by simp [lastWritten], .refl _ d⟩
  | cons a rest ih =>
    rw [List.forall_mem_cons] at ha
    obtain ⟨next, made', hnext, hserves, hroot, hread, hchanges⟩ := h.access hdirectory ha.1
    obtain ⟨disk, last, hdisk, hserves, hroot, hreads, hrest⟩ := ih hserves hroot ha.2
    refine ⟨disk, last, by rw [Store.run, hnext, hdisk], hserves, hroot,
      fun path hpath hname => ?_, ?_⟩
    · rw [hreads path hpath hname, hread path hpath hname, lastWritten_cons, Option.map_or,
        Option.or_assoc]
    · refine (hchanges.mono fun place hplace => ⟨a, List.mem_cons_self, hplace⟩).trans ?_
      refine hrest.mono ?_
      rintro place ⟨b, hb, hplace⟩
      exact ⟨b, List.mem_cons_of_mem a hb, hplace⟩

end Serves

/-- The place of the file with a name directly inside the directory that a path names. -/
def IsFileIn (d : Disk) (root name : String) (place : Place) : Prop :=
  ∃ directory, d.directoryAt? root = some directory ∧ place = directory ++ [name]

end Disk

namespace Store

variable {root path : String} {paths : List String} {d made disk disk' : Disk} {directory : Place}
  {files : List (String × String)} {accesses : List Access}

/-! ## The store in memory -/

/-- A store in memory has the texts that a disk has in the files of the paths. -/
def Mirrors (root : String) (paths : List String) (d : Disk) (files : List (String × String)) :
    Prop :=
  ∀ path ∈ paths, fileName path ≠ "" →
    d.read? root (fileName path) = (fileIn files (fileName path)).map .text

/-- What an access under the file name does to a store in memory. -/
theorem accessByName_memory (files : List (String × String)) (a : Access) :
    ∃ files', ((memory files).accessByName a).1 = memory files' ∧
      ∀ name, name ≠ "" → fileIn files' name = (a.written name).or (fileIn files name) := by
  cases a with
  | read path =>
    refine ⟨files, ?_, fun name _ => by simp [Access.written]⟩
    unfold accessByName
    split_ifs <;> rfl
  | write path content =>
    by_cases hempty : fileName path = ""
    · refine ⟨files, by rw [accessByName, Access.path, if_pos hempty], fun name hname => ?_⟩
      simp [Access.written, hempty, Ne.symm hname]
    · refine ⟨_, by rw [accessByName, Access.path, if_neg hempty]; rfl, fun name _ => ?_⟩
      rw [Access.written]
      by_cases hname : fileName path = name
      · rw [hname, fileIn_withFile, if_pos rfl, Option.some_or]
      · rw [fileIn_withFile_of_ne (Ne.symm hname), if_neg hname, Option.none_or]

/-! ## Both stores -/

theorem read_of_name (hname : fileName path ≠ "") :
    (Store.directory root d).read path = readFrom root d (fileName path) := by
  simp only [read, String.isEmpty_iff, if_neg hname]

theorem access_of_empty {a : Access} (h : fileName a.path = "") :
    (Store.directory root d).access a = (.directory root d, a.refused) := by
  cases a with
  | write path content =>
    have hname : fileName path = "" := h
    simp [access, write, Access.refused, hname]
  | read path =>
    have hname : fileName path = "" := h
    simp [access, read, Access.refused, hname]

theorem reply_eq (h : Disk.Serves root paths d made)
    (hdirectory : made.directoryAt? root = some directory) (hfiles : Mirrors root paths d files)
    {a : Access} (ha : a.path ∈ paths) :
    ((Store.directory root d).access a).2 = ((memory files).accessByName a).2 := by
  by_cases hname : fileName a.path = ""
  · rw [access_of_empty hname, accessByName, if_pos hname]
  · rw [accessByName, if_neg hname]
    cases a with
    | write path content =>
      have hwrite := (h.write hdirectory ha hname content).1
      exact congrArg (fun turn => Reply.written turn.2) hwrite
    | read path =>
      have hread : (Store.directory root d).read path = .ok (fileIn files (fileName path)) := by
        have hpath : fileName path ≠ "" := hname
        rw [read_of_name hpath, readFrom, hfiles path ha hname]
        cases fileIn files (fileName path) <;> rfl
      exact congrArg Reply.found hread

/-- **The replies are those of a store in memory** that is asked for the file names. -/
theorem replies_eq (h : Disk.Serves root paths d made)
    (hdirectory : made.directoryAt? root = some directory) (hfiles : Mirrors root paths d files)
    (ha : ∀ a ∈ accesses, a.path ∈ paths) :
    (run access (.directory root d) accesses).2 = (run accessByName (memory files) accesses).2 := by
  induction accesses generalizing d made files with
  | nil => rfl
  | cons a rest ih =>
    rw [List.forall_mem_cons] at ha
    obtain ⟨next, made', hnext, hserves, hroot, hread, -⟩ := h.access hdirectory ha.1
    obtain ⟨files', hfiles', hwritten⟩ := accessByName_memory files a
    have hmirrors : Mirrors root paths next files' := by
      intro path hpath hname
      rw [hread path hpath hname, hfiles path hpath hname, hwritten _ hname, Option.map_or]
    rw [run, run, hnext, hfiles', reply_eq h hdirectory hfiles ha.1, ih hserves hroot hmirrors ha.2]

/-! ## No way out of the directory -/

/-- **A read looks at one file directly inside the directory**, whatever the path: of what stands
anywhere else, only the directories matter. -/
theorem read_congr (hdirectories : ∀ place, disk'.hasDirectory place = disk.hasDirectory place)
    (hfile : ∀ place, disk.IsFileIn root (fileName path) place →
      disk'.find? place = disk.find? place) :
    (Store.directory root disk').read path = (Store.directory root disk).read path := by
  have hread : disk'.read? root (fileName path) = disk.read? root (fileName path) := by
    rw [Disk.read?, Disk.read?, Disk.placeIn?_congr hdirectories]
    cases hplace : disk.placeIn? root (fileName path) with
    | none => rfl
    | some place =>
      obtain ⟨-, directory, hdirectory, -, rfl⟩ := Disk.placeIn?_eq_some.mp hplace
      exact hfile _ ⟨directory, hdirectory, rfl⟩
  simp only [read, readFrom, hread]

/-- **A write changes one file directly inside the directory**, whatever the path and also if it is
refused, and makes directories. -/
theorem write_changesOnly (root : String) (d : Disk) (path content : String) :
    ∃ disk, ((Store.directory root d).write path content).1 = .directory root disk ∧
      d.ChangesOnly (disk.IsFileIn root (fileName path)) disk := by
  by_cases hname : fileName path = ""
  · exact ⟨d, by simp [write, hname], .refl _ d⟩
  · simp only [write, String.isEmpty_iff, if_neg hname, writeInto]
    cases hmake : d.makeDirectories root with
    | none => exact ⟨d, rfl, .refl _ d⟩
    | some made =>
      dsimp only
      have hgrows := Disk.grows_makeDirectories hmake
      cases hwrite : made.write? root (fileName path) content with
      | none => exact ⟨made, rfl, hgrows.changesOnly _⟩
      | some written =>
        obtain ⟨place, hplace, hfree, rfl⟩ := Disk.write?_eq_some.mp hwrite
        obtain ⟨-, directory, hdirectory, -, rfl⟩ := Disk.placeIn?_eq_some.mp hplace
        refine ⟨_, rfl, (hgrows.changesOnly _).trans ((Disk.changesOnly_put made _ _).mono ?_)⟩
        rintro place rfl
        refine ⟨directory, ?_, rfl⟩
        rw [Disk.directoryAt?_congr (Disk.hasDirectory_put_text hfree content), hdirectory]

/-- **A store in a directory is a store in memory that keeps a text for each file name.** Where the
directory `root` can be made and serves the paths that are asked for:

* The replies to any accesses are those of a store in memory which has the texts of the files and
  is asked for the file name instead of the path.
* After any accesses, a write is accepted, and a read finds the last text that was written under any
  path with the same file name, or else what it would have found before. Nothing but the files that
  were written has changed, apart from directories that were made.

And whatever the paths and the disks:

* A file name stays as it is.
* A path without a file name in it is refused, and nothing changes.
* Any other path leads to the file with that name directly inside the directory: no other file is
  written, and no other file is read. -/
theorem keyed_by_fileName (h : Disk.Serves root paths d made) :
    (∀ accesses : List Access, (∀ a ∈ accesses, a.path ∈ paths) →
      (∀ files, Mirrors root paths d files →
        (run access (.directory root d) accesses).2 =
          (run accessByName (memory files) accesses).2) ∧
      ∃ disk, (run access (.directory root d) accesses).1 = .directory root disk ∧
        (∃ directory, made.directoryAt? root = some directory ∧
          d.ChangesOnly (fun place => ∃ a ∈ accesses, a.WritesTo directory place) disk) ∧
        ∀ path ∈ paths, fileName path ≠ "" →
          (∀ content, ((Store.directory root disk).write path content).2 = none) ∧
          (Store.directory root disk).read path =
            match lastWritten accesses (fileName path) with
            | some content => .ok (some content)
            | none => (Store.directory root d).read path) ∧
    (∀ path, fileName (fileName path) = fileName path) ∧
    (∀ path, fileName path = "" → ∀ disk,
      (∀ content, (Store.directory root disk).write path content =
        (.directory root disk, some (.invalidPath path))) ∧
      (Store.directory root disk).read path = .error (.invalidPath path)) ∧
    ∀ path, fileName path ≠ "" →
      pathSteps (joinPath root (fileName path)) = pathSteps root ++ [.down (fileName path)] ∧
      (∀ disk content, ∃ disk',
        ((Store.directory root disk).write path content).1 = .directory root disk' ∧
        disk.ChangesOnly (disk'.IsFileIn root (fileName path)) disk') ∧
      ∀ disk disk' : Disk, (∀ place, disk'.hasDirectory place = disk.hasDirectory place) →
        (∀ place, disk.IsFileIn root (fileName path) place →
          disk'.find? place = disk.find? place) →
        (Store.directory root disk').read path = (Store.directory root disk).read path := by
  obtain ⟨directory, hdirectory⟩ := Disk.directoryAt?_makeDirectories h.makes
  refine ⟨fun accesses ha => ⟨fun files hfiles => replies_eq h hdirectory hfiles ha, ?_⟩,
    fileName_fileName, fun path hname disk => ?_, fun path hname => ⟨?_, ?_, ?_⟩⟩
  · obtain ⟨disk, made', hdisk, hserves, hroot, hread, hchanges⟩ := h.run hdirectory ha
    refine ⟨disk, hdisk, ⟨directory, hdirectory, hchanges⟩, fun path hpath hname => ⟨?_, ?_⟩⟩
    · intro content
      rw [(hserves.write hroot hpath hname content).1]
    · rw [read_of_name hname, read_of_name hname, readFrom, hread path hpath hname]
      cases lastWritten accesses (fileName path) with
      | some content => rfl
      | none => rw [Option.map_none, Option.none_or, readFrom]
  · simp [write, read, hname]
  · exact pathSteps_joinPath_fileName root hname
  · exact fun disk content => write_changesOnly root disk path content
  · exact fun disk disk' => read_congr

/-- A path that climbs out of the directory and one that names a drive are the same file in it. -/
theorem keyed_in_saves :
    let paths := ["../../escape.txt", "0:\\escape.txt", ".."]
    let outside : Disk := ⟨[(["game"], .directory), (["escape.txt"], .text "outside")]⟩
    Disk.Serves "game/saves" paths outside (outside.put ["game", "saves"] .directory) ∧
    (run access (.directory "game/saves" outside) [.read "0:\\escape.txt",
      .write "../../escape.txt" "inside", .write ".." "lost", .read "0:\\escape.txt"]).2 =
        [.found (.ok none), .written none, .written (some (.invalidPath "..")),
          .found (.ok (some "inside"))] := by
  intro paths outside
  have hserves :
      Disk.Serves "game/saves" paths outside (outside.put ["game", "saves"] .directory) :=
    { makes := by decide +kernel
      short := by decide +kernel
      file := by decide +kernel
      settled := by decide +kernel }
  have hfiles : Mirrors "game/saves" paths outside [] := by
    unfold Mirrors
    decide +kernel
  refine ⟨hserves, ?_⟩
  rw [((keyed_by_fileName hserves).1 _ (by decide +kernel)).1 [] hfiles]
  rfl

end Store

end ModalConsole
