import Mathlib.Data.List.TakeWhile
import Mathlib.Data.String.Basic
import NamedLock.Config.Load

/-!
# Names — plain names as keys and as names of files

A plain name holds nothing but letters, digits, `_` and `-`. As a key it stands for itself, and as the name of a
configuration file for one file of the directory. So the files of a service, and no others, decide its layers.
-/

namespace NamedLock

namespace Config

/-- A name of ASCII letters, digits, `_` and `-`. -/
structure Plain (name : String) : Prop where
  nonempty : name.toList ≠ []
  chars : ∀ c ∈ name.toList, Path.isIdentChar c = true

instance (name : String) : Decidable (Plain name) :=
  decidable_of_iff (name.toList ≠ [] ∧ name.toList.all Path.isIdentChar = true)
    ⟨fun h => ⟨h.1, List.all_eq_true.1 h.2⟩, fun h => ⟨h.nonempty, List.all_eq_true.2 h.chars⟩⟩

namespace Plain

variable {name : String}

/-- A plain name is a key of its own. -/
theorem ofText (h : Plain name) : Path.ofText name = [.child name] := by
  have htake : name.toList.takeWhile Path.isIdentChar = name.toList := List.takeWhile_eq_self_iff.2 h.chars
  have hdrop : name.toList.dropWhile Path.isIdentChar = [] := List.dropWhile_eq_nil_iff.2 h.chars
  have hident : Path.ident? name.toList = some (name, []) := by
    simp only [Path.ident?, htake, hdrop, if_neg h.nonempty, String.ofList_toList]
  simp [Path.ofText, Path.parse?, hident, Path.steps?]

/-- Nothing special stands in a plain name. -/
theorem notMem (h : Plain name) {c : Char} (hc : Path.isIdentChar c = false) : c ∉ name.toList := by
  intro hmem
  exact absurd (h.chars c hmem) (by simp [hc])

end Plain

/-! ## Names of files -/

section Slashes

open String

/-- Looking for slashes where there are none comes to the whole text. -/
theorem splitOnAux_of_notMem (before after : List Char) (h : '/' ∉ after) :
    splitOnAux (ofList (before ++ after)) "/" 0 ⟨utf8Len before⟩ 0 [] = [ofList (before ++ after)] := by
  induction after generalizing before with
  | nil =>
    have hend : Pos.Raw.atEnd (ofList (before ++ [])) ⟨utf8Len before⟩ = true := (atEnd_of_valid _ _).2 rfl
    have hall := extract_of_valid [] before []
    unfold splitOnAux
    rw [if_pos hend]
    simp at hall ⊢
    exact hall
  | cons c after ih =>
    have hc : c ≠ '/' := fun hc => h (hc ▸ List.mem_cons_self)
    have hend : ¬ Pos.Raw.atEnd (ofList (before ++ c :: after)) ⟨utf8Len before⟩ = true := by
      rw [atEnd_of_valid]
      simp
    have hget : Pos.Raw.get (ofList (before ++ c :: after)) ⟨utf8Len before⟩ = c := get_of_valid _ _
    have hslash : Pos.Raw.get "/" 0 = '/' := by decide
    have hnext := next_of_valid before c after
    have hrest := ih (before ++ [c]) fun hmem => h (List.mem_cons_of_mem _ hmem)
    unfold splitOnAux
    rw [if_neg hend, hget, hslash, if_neg (by simpa using hc)]
    simp at hnext hrest ⊢
    rw [hnext]
    exact hrest

theorem splitOn_of_notMem {s : String} (h : '/' ∉ s.toList) : s.splitOn "/" = [s] := by
  have hall := splitOnAux_of_notMem [] s.toList h
  simpa [splitOn] using hall

end Slashes

namespace FilePath

/-- A text without slashes is a path of one name. -/
theorem ofText_of_notMem {s : String} (h : '/' ∉ s.toList) (hempty : s ≠ "") (hdot : s ≠ ".") : ofText s = ⟨false, [s]⟩ := by
  have hrelative : s.toList.head? ≠ some '/' := fun hhead => h (List.mem_of_head? hhead)
  simp [ofText, splitOn_of_notMem h, hempty, hdot, hrelative]

/-- A path with one name more. -/
def child (p : FilePath) (name : String) : FilePath := { p with names := p.names ++ [name] }

/-- The last name decides how a path ends. -/
theorem ending?_child {p : FilePath} {name ending : String} (hname : name.toList ≠ []) (hending : '.' ∉ ending.toList) :
    (p.child (name ++ "." ++ ending)).ending? = some ending := by
  have hplain : ∀ c ∈ ending.toList.reverse, decide (c ≠ '.') = true := by
    intro c hc
    have hne : c ≠ '.' := by
      rintro rfl
      exact hending (List.mem_reverse.1 hc)
    simpa using hne
  have hreverse : (name ++ "." ++ ending).toList.reverse = ending.toList.reverse ++ '.' :: name.toList.reverse := by
    simp
  have hdrop : (name ++ "." ++ ending).toList.reverse.dropWhile (· ≠ '.') = '.' :: name.toList.reverse := by
    rw [hreverse, List.dropWhile_append_of_pos hplain]
    simp
  have htake : (name ++ "." ++ ending).toList.reverse.takeWhile (· ≠ '.') = ending.toList.reverse := by
    rw [hreverse, List.takeWhile_append_of_pos hplain]
    simp
  obtain ⟨c, cs, hcs⟩ := List.exists_cons_of_ne_nil (mt List.reverse_eq_nil_iff.1 hname)
  simp only [ending?, child, List.getLast?_append, List.getLast?_singleton, Option.some_or]
  rw [hdrop, htake, hcs]
  simp

/-- A further ending stands behind the last name. -/
theorem withEnding_child (p : FilePath) (name ending : String) :
    (p.child name).withEnding ending = p.child (name ++ "." ++ ending) := by
  simp [withEnding, child]

theorem child_inj {p : FilePath} {name name' : String} : p.child name = p.child name' ↔ name = name' := by
  simp [child]

end FilePath

section Files

variable {vs : Environment.Variables} {name : String}

/-- The configuration file of a plain name is a file of the directory. -/
theorem configFile_eq (h : Plain name) : configFile vs name = (directory vs).child (name ++ ".toml") := by
  have hlong : ∀ t : String, t.length < 5 → name ++ ".toml" ≠ t := by
    rintro _ hshort rfl
    rw [String.length_append] at hshort
    exact absurd hshort (by simp [show ".toml".length = 5 from rfl])
  have hslash : '/' ∉ (name ++ ".toml").toList := by simpa using h.notMem (by decide)
  have hofText := FilePath.ofText_of_notMem hslash (hlong "" (by decide)) (hlong "." (by decide))
  simp [configFile, FilePath.join, hofText, FilePath.child]

/-- Without another directory it lies in `config`. -/
theorem configFile_eq_of_default (hvs : Environment.lookup? vs "CONFIG_DIR" = none) (h : Plain name) :
    configFile vs name = ⟨false, ["config", name ++ ".toml"]⟩ := by
  have hdirectory : directory vs = ⟨false, ["config"]⟩ := by
    rw [directory, hvs]
    exact FilePath.ofText_of_notMem (by decide) (by decide) (by decide)
  rw [configFile_eq h, hdirectory]
  rfl

/-- Its ending is that of its format. -/
theorem ending?_configFile (h : Plain name) : (configFile vs name).ending? = some "toml" := by
  have hname : name ++ ".toml" = name ++ "." ++ "toml" := by
    rw [String.append_assoc]
    rfl
  rw [configFile_eq h, hname]
  exact FilePath.ending?_child h.nonempty (by decide)

/-- With a further ending it is no configuration file any more. -/
theorem configFile_ne_further {name' : String} (h : Plain name) (h' : Plain name') {q : FilePath × Format}
    (hq : q ∈ furtherPaths (configFile vs name)) : q.1 ≠ configFile vs name' := by
  -- there are two dots in the one name and one in the other
  have hdots : ∀ {n : String}, Plain n → n.toList.count '.' = 0 :=
    fun h => List.count_eq_zero.2 (h.notMem (by decide))
  obtain ⟨f, -, hf⟩ := List.mem_flatMap.1 hq
  obtain ⟨ending, -, rfl⟩ := List.mem_map.1 hf
  rw [configFile_eq h, configFile_eq h', FilePath.withEnding_child, Ne, FilePath.child_inj]
  intro heq
  have hcount := congrArg (fun n : String => n.toList.count '.') heq
  simp [hdots h, hdots h'] at hcount

end Files

/-! ## Layers of files -/

/-- One file and no other. -/
def soleFile (p : FilePath) (text : String) : Files := fun q => if q = p then some text else none

variable {files : Files} {p : FilePath}

@[simp] theorem soleFile_self (p : FilePath) (text : String) : soleFile p text p = some text := if_pos rfl

theorem soleFile_of_ne {q : FilePath} (h : q ≠ p) (text : String) : soleFile p text q = none := if_neg h

/-- What is found is the one file. -/
theorem soleFile_eq_some_iff {q : FilePath} {text s : String} : soleFile p text q = some s ↔ q = p ∧ s = text := by
  unfold soleFile
  split_ifs with h <;> simp [h, eq_comm]

/-- A file that is missing, under further endings too, has an empty layer. -/
theorem fileLayer_of_missing (h : files p = none) (hfurther : ∀ q ∈ furtherPaths p, files q.1 = none) :
    fileLayer files p = .ok [] := by
  have hfound : findFile? files p = none := by
    simp only [findFile?, h]
    apply List.findSome?_eq_none_iff.2
    intro q hq
    simp [hfurther q hq]
  simp only [fileLayer, hfound]

/-- The layer of a file in TOML holds the entries of the document. -/
theorem fileLayer_of_toml {s : String} {es : List (String × Toml.Value)} (h : files p = some s)
    (hending : p.ending? = some "toml") (hes : Toml.parse? (dropMark s) = some es) :
    fileLayer files p = .ok (Value.entriesOfToml (some p.text) es) := by
  have hformat : Format.ofEnding? "toml" = some .toml := by decide
  have hfound : findFile? files p = some (p, .toml, s) := by
    simp [findFile?, h, hending, hformat]
  simp [fileLayer, hfound, Format.parse?, hes]

end Config

end NamedLock
