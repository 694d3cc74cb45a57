import Thumbnailing.Proofs.Service.Upload

set_option autoImplicit false

namespace Thumbnailing

namespace Path

theorem splitName_parts (name : List Char) : (splitName name).1 ++ (splitName name).2 = name := by
  unfold splitName
  simp only
  split
  · exact List.append_nil name
  · rename_i whole
    simp only [Bool.or_eq_true, not_or, List.isEmpty_iff] at whole
    -- Behind the front that is left when the last piece is taken off, there is the point.
    have pieces : (name.reverse.dropWhile (· != '.')).reverse ++
        (name.reverse.takeWhile (· != '.')).reverse = name := by
      rw [← List.reverse_append, List.takeWhile_append_dropWhile, List.reverse_reverse]
    cases front : name.reverse.dropWhile (· != '.') with
    | nil =>
      rw [front, List.reverse_nil, List.nil_append] at pieces
      simp [pieces] at whole
    | cons c rest =>
      have point : c = '.' := by
        have head := List.head?_dropWhile_not (· != '.') name.reverse
        simpa [front] using head
      subst point
      rw [front, List.reverse_cons] at pieces
      generalize (name.reverse.takeWhile (· != '.')).reverse = last at *
      subst pieces
      have length : (rest.reverse ++ ['.'] ++ last).length - last.length - 1 = rest.reverse.length := by
        simp only [List.length_append, List.length_singleton]
        omega
      rw [length, List.append_assoc, List.take_left]
      rfl

theorem splitName_filled {name : List Char} (filled : name ≠ []) : (splitName name).1 ≠ [] := by
  unfold splitName
  simp only
  split
  · exact filled
  · rename_i whole
    simp only [Bool.or_eq_true, not_or, List.isEmpty_iff] at whole
    exact whole.2

theorem stem_suffix (path : Path) : path.stem ++ path.suffix = path.name := by
  rw [← String.toList_inj, String.toList_append, stem, suffix, stemOf, suffixOf,
    String.toList_ofList, String.toList_ofList, splitName_parts]

theorem stem_filled {path : Path} (suffixed : path.suffix ≠ "") : path.stem ≠ "" := by
  intro empty
  have front : (splitName path.name.toList).1 = [] := by
    simpa [stem, stemOf] using congrArg String.toList empty
  have named : path.name.toList = [] := by
    by_contra filled
    exact splitName_filled filled front
  refine suffixed ?_
  rw [suffix, suffixOf, named]
  rfl

theorem slash_of_name (text : String) : '/' ∉ (ofText text).name.toList := by
  unfold name
  rw [List.getLastD_eq_getLast?]
  cases last : (ofText text).steps.getLast? with
  | none => simp
  | some step => exact (isName_of_ofText (List.mem_of_getLast? last)).2

theorem slash_of_stem (text : String) : '/' ∉ (ofText text).stem.toList := by
  have whole := slash_of_name text
  rw [← stem_suffix, String.toList_append, List.mem_append, not_or] at whole
  exact whole.1

theorem slash_of_suffix (text : String) : '/' ∉ (ofText text).suffix.toList := by
  have whole := slash_of_name text
  rw [← stem_suffix, String.toList_append, List.mem_append, not_or] at whole
  exact whole.2

theorem ofText_name {name : String} (named : IsName name) : ofText name = ⟨.relative, [name]⟩ := by
  have pieces : piecesOf (['/'].intercalate [name.toList]) = [name.toList] :=
    piecesOf_intercalate nofun fun piece member => List.mem_singleton.mp member ▸ named.2
  rw [List.intercalate_singleton] at pieces
  have root : rootOf name.toList = .relative := by
    cases chars : name.toList with
    | nil => rfl
    | cons c rest =>
      have apart : c ≠ '/' := by
        rintro rfl
        exact named.2 (by simp [chars])
      simp [rootOf, apart]
  rw [ofText, pieces, root, List.filter_cons_of_pos named.1]
  simp

end Path

namespace Upload

theorem unlessEmpty_of_filled {text : String} (filled : text ≠ "") (default : String) :
    unlessEmpty default text = text :=
  if_neg (by simpa using filled)

theorem unlessEmpty_filled {default : String} (filled : default ≠ "") (text : String) :
    unlessEmpty default text ≠ "" := by
  unfold unlessEmpty
  split
  · exact filled
  · rename_i other
    rintro rfl
    exact other rfl

theorem slash_unlessEmpty {default text : String} (inDefault : '/' ∉ default.toList)
    (inText : '/' ∉ text.toList) : '/' ∉ (unlessEmpty default text).toList := by
  unfold unlessEmpty
  split
  · exact inDefault
  · exact inText

theorem pointName_plain (format : ImageFormat) :
    "." ++ format.name ≠ "" ∧ '/' ∉ ("." ++ format.name).toList := by
  cases format <;> decide

theorem storedStem_filled (filename : Option String) : storedStem filename ≠ "" :=
  unlessEmpty_filled (by decide) _

theorem storedSuffix_filled (filename : Option String) (format : ImageFormat) :
    storedSuffix filename format ≠ "" :=
  unlessEmpty_filled (pointName_plain format).1 _

theorem slash_of_storedName (filename : Option String) (format : ImageFormat) :
    '/' ∉ (storedName filename format).toList := by
  rw [storedName, String.toList_append, List.mem_append, not_or]
  constructor
  · exact slash_unlessEmpty (by decide) (Path.slash_of_stem _)
  · exact slash_unlessEmpty (pointName_plain format).2 (Path.slash_of_suffix _)

theorem storedName_isName (filename : Option String) (format : ImageFormat) :
    Path.IsName (storedName filename format) := by
  refine ⟨?_, slash_of_storedName filename format⟩
  -- Stem and suffix have a character each, so the name is longer than a point.
  have stem : (storedStem filename).toList ≠ [] := by simpa using storedStem_filled filename
  have suffix : (storedSuffix filename format).toList ≠ [] := by
    simpa using storedSuffix_filled filename format
  have long : 2 ≤ (storedName filename format).toList.length := by
    rw [storedName, String.toList_append, List.length_append]
    have inStem := List.length_pos_iff.mpr stem
    have inSuffix := List.length_pos_iff.mpr suffix
    omega
  generalize (storedName filename format).toList = chars at long
  cases chars with
  | nil => cases long
  | cons first more =>
    cases more with
    | nil => simp at long
    | cons second rest => simp [Path.isStep]

theorem storedName_kept {filename : Option String} (format : ImageFormat)
    (suffixed : (Path.ofText (filename.getD "")).suffix ≠ "") :
    storedName filename format = (Path.ofText (filename.getD "")).name := by
  have sent : filename.getD "" ≠ "" := by
    intro empty
    rw [empty] at suffixed
    exact suffixed (by decide)
  have stemmed := Path.stem_filled suffixed
  rw [storedName, storedStem, storedSuffix, unlessEmpty_of_filled sent,
    unlessEmpty_of_filled stemmed, unlessEmpty_of_filled suffixed, Path.stem_suffix]

structure IsChildName (name : String) : Prop where
  filled : name ≠ ""
  single : '/' ∉ name.toList
  leaves : name ≠ "."
  down : name ≠ ".."

theorem storedName_isChildName (filename : Option String) (format : ImageFormat) :
    IsChildName (storedName filename format) := by
  have named := (storedName_isName filename format).1
  constructor
  · intro empty
    simp [empty, Path.isStep] at named
  · exact slash_of_storedName filename format
  · intro point
    simp [point, Path.isStep] at named
  · exact storedName_plain filename format

theorem write_child {name : String} (named : name ≠ "..") {content : Bytes} {before after : World}
    {folder : Path} (root : folder.root ≠ .relative) (plain : ∀ step ∈ folder.steps, step ≠ "..")
    (written : (Files.write (folder.child name) content).run before = (.ok (), after)) :
    after.files = before.files.put (folder.steps ++ [name]) (.file content) := by
  have put := Files.write_eq_ok written
  rcases Files.change_cases (folder.child name)
      (fun files working => files.write working (folder.child name) content) before with
    ⟨failure, refused⟩ | ⟨files, -, changed, ran⟩
  · cases refused.symm.trans put
  · cases ran.symm.trans put
    exact FileTree.write_plain (show (folder.child name).root ≠ .relative from root)
      (child_plain plain named) changed

/-- Whatever name was sent with an upload, it is stored under a name that leads right into the
folder made for the request; and a name that ends in a suffix is kept. -/
theorem storedName_staysInside (filename : Option String) (format : ImageFormat) :
    IsChildName (storedName filename format) ∧
    Path.ofText (storedName filename format) = ⟨.relative, [storedName filename format]⟩ ∧
    ((Path.ofText (filename.getD "")).suffix ≠ "" →
      storedName filename format = (Path.ofText (filename.getD "")).name) ∧
    ∀ (configured : String) (content : Bytes) (before between after : World) (folder : Path),
      (Temporary.create (Temporary.folderOf configured) "tmp" "" .folder).run before =
        (.ok folder, between) →
      (Files.write (folder.child (storedName filename format)) content).run between =
        (.ok (), after) →
      before.files.node? folder.steps = none ∧
      between.files = before.files.put folder.steps .folder ∧
      after.files =
        between.files.put (folder.steps ++ [storedName filename format]) (.file content) := by
  have inside := storedName_isChildName filename format
  refine ⟨inside, Path.ofText_name (storedName_isName filename format),
    storedName_kept format, ?_⟩
  intro configured content before between after folder made written
  rcases Temporary.run_create (Temporary.folderOf configured) "tmp" "" .folder before with
    ⟨failure, refused⟩ | ⟨fresh, location, isFresh, created⟩
  · rw [refused] at made
    cases made
  · rw [created] at made
    cases made
    have absent := isFresh.isAbsent
    obtain ⟨root, plain, rfl⟩ := freshFolder_plain isFresh
    exact ⟨absent, rfl, write_child inside.down root plain written⟩

def climbingName : String := "../../etc/.b/c.tar.gz"

def storing (name : String) : Task World Unit := do
  let folder ← Temporary.create (Temporary.folderOf "") "tmp" "" .folder
  Files.write (folder.child name) [1]

theorem climbingName_staysInside :
    (Path.ofText climbingName).suffix ≠ "" ∧ storedName climbingName .png = "c.tar.gz" ∧
    ∃ (folder : Path) (between after : World),
      (Temporary.create (Temporary.folderOf "") "tmp" "" .folder).run .plain =
        (.ok folder, between) ∧
      (Files.write (folder.child (storedName climbingName .png)) [1]).run between =
        (.ok (), after) ∧
      after.files = between.files.put (folder.steps ++ ["c.tar.gz"]) (.file [1]) := by
  have suffixed : (Path.ofText climbingName).suffix ≠ "" := by decide +kernel
  obtain ⟨-, -, kept, placed⟩ := storedName_staysInside (some climbingName) .png
  have name : storedName climbingName .png = "c.tar.gz" := (kept suffixed).trans (by decide +kernel)
  have stored : ((storing "c.tar.gz").run .plain).1.isOk = true := by decide +kernel
  rcases ran : (storing "c.tar.gz").run .plain with ⟨outcome, after⟩
  cases outcome with
  | error failure =>
    rw [ran] at stored
    cases stored
  | ok done =>
    obtain ⟨folder, between, made, written⟩ := Task.run_bind_eq_ok.mp ran
    rw [name] at placed ⊢
    obtain ⟨-, -, files⟩ := placed "" [1] .plain between after folder made written
    exact ⟨suffixed, rfl, folder, between, after, made, written, files⟩

end Upload

end Thumbnailing
