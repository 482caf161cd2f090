/-!
# Folders

The files that can be read and written, each with the content that is found
under its name.  Of the parts of a name between slashes an empty one and a single
dot lead nowhere, so that `./a` is another name of the file `a`.

Main results:

- `FileLocation.ofName?_dot`: a dot before a name does not change its location.
- `files_put_self`, `files_put_of_ne`: what is found after one file has been put
  into a folder.
- `save_eq_ok_iff`: a file is written exactly if its name is accepted.
-/

namespace Dialogue

/-! ## Contents -/

/-- What is found under the name of a file. -/
inductive FileContent where
  | absent
  /-- Bytes that are not a text in UTF-8. -/
  | notText
  | text (content : String)
  deriving DecidableEq, Repr

/-- Why a file cannot be read or written. -/
inductive FileFault where
  | absent
  | notText
  deriving DecidableEq, Repr

/-- The wording of the reason why a file cannot be read or written. -/
def FileFault.message : FileFault → String
  | absent => "No such file or directory (os error 2)"
  | notText => "stream did not contain valid UTF-8"

/-- The text of a file. -/
def FileContent.read : FileContent → Except FileFault String
  | absent => .error .absent
  | notText => .error .notText
  | text content => .ok content

/-- Files by name. -/
abbrev Files := String → FileContent

/-! ## Locations -/

/-- The folders that lead to a file, and the file itself. -/
structure FileLocation where
  isAbsolute : Bool
  folders : List String
  file : String
  deriving DecidableEq, Repr

/-- Whether a part of a name leads nowhere. -/
def isIdlePart (part : String) : Bool := part == "" || part == "."

/-- The location that a name stands for; nothing if its last part leads nowhere or
back, because then it is the name of a folder. -/
def FileLocation.ofName? (name : String) : Option FileLocation :=
  let parts := (name.toList.splitOn '/').map String.ofList
  match parts.getLast? with
  | none => none
  | some file =>
    if isIdlePart file || file == ".." then none
    else some {
      isAbsolute := name.toList.head? == some '/'
      folders := parts.dropLast.filter (!isIdlePart ·)
      file := file }

/-- A dot before a name without a leading slash does not change its location. -/
theorem FileLocation.ofName?_dot {name : String} (h : name.toList.head? ≠ some '/') :
    ofName? ("./" ++ name) = ofName? name := by
  have hs : ("./" ++ name).toList = '.' :: '/' :: name.toList := by simp
  have hsplit : ('.' :: '/' :: name.toList).splitOn '/' = ['.'] :: name.toList.splitOn '/' := by
    simp [List.splitOn_cons_eq_if_modifyHead]
  obtain ⟨part, parts, hp⟩ := List.exists_cons_of_ne_nil (List.splitOn_ne_nil '/' name.toList)
  have hb : (name.toList.head? == some '/') = false := by simpa using h
  simp [ofName?, hs, hsplit, hb, hp, isIdlePart]

/-! ## Folders -/

/-- The files of a folder.  Of several files with one location the first counts. -/
structure Folder where
  entries : List (FileLocation × FileContent) := []
  /-- Whether the folders exist to which names with slashes lead, even those in
  which no file has been found. -/
  hasFolders : Bool := false
  deriving DecidableEq, Repr

namespace Folder

/-- What is found under a location. -/
def find (folder : Folder) (location : FileLocation) : FileContent :=
  (folder.entries.lookup location).getD .absent

/-- What is found under a name. -/
def files (folder : Folder) : Files := fun name =>
  match FileLocation.ofName? name with
  | some location => folder.find location
  | none => .absent

/-- The folder with a file in place of what was found under its location. -/
def putAt (folder : Folder) (location : FileLocation) (content : FileContent) : Folder :=
  { folder with entries := (location, content) :: folder.entries.filter (·.1 ≠ location) }

/-- The folder with a file in place of what was found under its name. -/
def put (folder : Folder) (name : String) (content : FileContent) : Folder :=
  match FileLocation.ofName? name with
  | some location => folder.putAt location content
  | none => folder

/-- The folder with several files in place, the last one of a name. -/
def putAll (folder : Folder) (files : List (String × FileContent)) : Folder :=
  files.foldl (fun folder (name, content) => folder.put name content) folder

/-- Whether the folders of a location exist. -/
def leadsTo (folder : Folder) (location : FileLocation) : Bool :=
  folder.hasFolders || (location.folders.isEmpty && !location.isAbsolute) ||
    folder.entries.any fun (other, content) =>
      content ≠ .absent && other.isAbsolute == location.isAbsolute &&
        location.folders.isPrefixOf other.folders

/-- The location of a file of that name, if it can be written. -/
def accept? (folder : Folder) (name : String) : Option FileLocation :=
  (FileLocation.ofName? name).filter folder.leadsTo

/-- Writes a text to a file. -/
def save (folder : Folder) (name content : String) : Except FileFault Folder :=
  match folder.accept? name with
  | some location => .ok (folder.putAt location (.text content))
  | none => .error .absent

/-- A file is found under its location. -/
@[simp] theorem find_putAt_self (folder : Folder) (location : FileLocation)
    (content : FileContent) : (folder.putAt location content).find location = content := by
  simp [find, putAt]

/-- Entries under one location do not matter for what is found under another. -/
theorem lookup_filter_ne {location other : FileLocation} (hne : other ≠ location)
    (entries : List (FileLocation × FileContent)) :
    (entries.filter (·.1 ≠ location)).lookup other = entries.lookup other := by
  induction entries with
  | nil => rfl
  | cons entry entries ih =>
    obtain ⟨key, content⟩ := entry
    by_cases hk : key = location
    · have hb : (other == key) = false := by simpa [hk] using hne
      rw [List.filter_cons_of_neg (by simp [hk]), ih, List.lookup_cons, hb]
    · rw [List.filter_cons_of_pos (by simp [hk]), List.lookup_cons, List.lookup_cons, ih]

/-- Putting a file into a folder leaves the others alone. -/
theorem find_putAt_of_ne (folder : Folder) {location other : FileLocation} (content : FileContent)
    (hne : other ≠ location) : (folder.putAt location content).find other = folder.find other := by
  have hb : (other == location) = false := by simpa using hne
  simp only [find, putAt, List.lookup_cons, hb, lookup_filter_ne hne]

/-- A file is found under every name of its location. -/
theorem files_put_self (folder : Folder) {name other : String} (content : FileContent)
    (hsome : (FileLocation.ofName? name).isSome)
    (heq : FileLocation.ofName? other = FileLocation.ofName? name) :
    (folder.put name content).files other = content := by
  obtain ⟨location, hp⟩ := Option.isSome_iff_exists.1 hsome
  simp [files, put, hp, heq]

/-- Putting a file into a folder leaves the names of other locations alone. -/
theorem files_put_of_ne (folder : Folder) {name other : String} (content : FileContent)
    (hne : FileLocation.ofName? other ≠ FileLocation.ofName? name) :
    (folder.put name content).files other = folder.files other := by
  unfold files put
  cases ho : FileLocation.ofName? other with
  | none => rfl
  | some location =>
    cases hn : FileLocation.ofName? name with
    | none => rfl
    | some changed =>
      simp only
      refine find_putAt_of_ne folder content fun h => hne ?_
      rw [ho, hn, h]

/-- A file leaves what is found under the names of other files as it is. -/
theorem files_putAt_of_ne (folder : Folder) {location : FileLocation} {other : String}
    (hne : FileLocation.ofName? other ≠ some location)
    (content : FileContent) : (folder.putAt location content).files other = folder.files other := by
  simp only [files]
  cases hother : FileLocation.ofName? other with
  | none => rfl
  | some found =>
    have hfound : found ≠ location := fun h => hne (h ▸ hother)
    exact find_putAt_of_ne folder content hfound

/-- A file that has been written can be written again. -/
theorem accept?_putAt {folder : Folder} {name : String} {location : FileLocation}
    (haccept : folder.accept? name = some location) (content : String) :
    (folder.putAt location (.text content)).accept? name = some location := by
  have hlocation : FileLocation.ofName? name = some location :=
    (Option.filter_eq_some_iff.1 haccept).1
  rw [accept?, Option.filter_eq_some_iff]
  refine ⟨hlocation, ?_⟩
  simp [leadsTo, putAt]

/-- A file is written exactly if its name is accepted. -/
theorem save_eq_ok_iff (folder : Folder) (name content : String) (result : Folder) :
    folder.save name content = .ok result ↔
      ∃ location, folder.accept? name = some location ∧
        folder.putAt location (.text content) = result := by
  unfold save
  cases folder.accept? name <;> simp

end Folder

end Dialogue
