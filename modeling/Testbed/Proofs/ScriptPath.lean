import Testbed.Proofs.AbsolutePath
import Testbed.Script.Launcher

/-!
# Where a script is found

However the build directory is written, the path of a script is the same, and it is absolute. So the
script is found from every directory in which it may be started.
-/

namespace Testbed

namespace Text

/-- Every blank as a space. -/
def spaced (s : List Char) : List Char :=
  s.map fun c => if isBlank c then ' ' else c

/-- A character is put in front of a piece, behind which there are words. -/
def gather (c : Char) (found : List Char × List (List Char)) : List Char × List (List Char) :=
  if isBlank c then ([], if found.1.isEmpty then found.2 else found.1 :: found.2)
  else (c :: found.1, found.2)

theorem exists_gathered (s : List Char) : ∃ piece rest, splitOn ' ' (spaced s) = piece :: rest ∧
    s.foldr gather ([], []) = (piece, rest.filter (· ≠ [])) := by
  induction s with
  | nil => exact ⟨[], [], rfl, rfl⟩
  | cons c s ih =>
    obtain ⟨piece, rest, pieces, found⟩ := ih
    rw [List.foldr_cons, found, spaced, List.map_cons, splitOn_cons]
    by_cases blank : isBlank c = true
    · refine ⟨[], piece :: rest, by rw [if_pos blank, if_pos rfl, ← pieces, spaced], ?_⟩
      cases piece <;> simp [gather, blank]
    · have other : c ≠ ' ' := fun space => blank (space ▸ rfl)
      refine ⟨c :: piece, rest, ?_, by simp [gather, blank]⟩
      rw [if_neg blank, if_neg other, ← spaced, pieces]

/-- The words are the pieces between blanks that are not empty. -/
theorem words_eq (s : List Char) : words s = (splitOn ' ' (spaced s)).filter (· ≠ []) := by
  obtain ⟨piece, rest, pieces, found⟩ := exists_gathered s
  have step : words s = if (s.foldr gather ([], [])).1.isEmpty then (s.foldr gather ([], [])).2
      else (s.foldr gather ([], [])).1 :: (s.foldr gather ([], [])).2 := rfl
  rw [step, found, pieces]
  cases piece <;> simp

end Text

namespace Path

open Text

/-- Something in the path is not a slash. -/
def HasPart (path : String) : Prop :=
  ∃ c ∈ path.toList, c ≠ '/'

/-- Ways to write one and the same directory, seen from the working directory. Slashes in front of
the first part are not touched. -/
inductive Respelled (workingDirectory : String) : String → String → Prop
  | doubled {front back} : HasPart front →
      Respelled workingDirectory (front ++ "/" ++ back) (front ++ "//" ++ back)
  | dotted {front back} : HasPart front ∨ isAbsolute back = false →
      Respelled workingDirectory (front ++ "/" ++ back) (front ++ "/./" ++ back)
  | dotFirst {path} : isAbsolute path = false → Respelled workingDirectory path ("./" ++ path)
  | dotLast {front} : Respelled workingDirectory (front ++ "/") (front ++ "/.")
  | ended {path} : HasPart path → Respelled workingDirectory path (path ++ "/")
  | fromHome {path} : isAbsolute path = false →
      Respelled workingDirectory path (join workingDirectory path)
  | symm {path other} : Respelled workingDirectory path other →
      Respelled workingDirectory other path
  | trans {path middle other} : Respelled workingDirectory path middle →
      Respelled workingDirectory middle other → Respelled workingDirectory path other

theorem segments_ended (front : String) : segments (front ++ "/") = segments front := by
  have ended := segments_append_slash front ""
  rwa [String.append_empty, segments_empty, List.append_nil] at ended

theorem relative_dot (path : String) : isAbsolute ("./" ++ path) = false := by
  simp [isAbsolute]

theorem segments_dot (path : String) : segments ("./" ++ path) = segments path :=
  segments_append_slash "." path

/-- A directory leads to the same place however it is written. -/
theorem plain_of_respelled {workingDirectory path other : String} (home : IsPlace workingDirectory)
    (h : Respelled workingDirectory path other) :
    plain workingDirectory path = plain workingDirectory other := by
  induction h with
  | @doubled front back part =>
    have split : front ++ "//" ++ back = front ++ "/" ++ "/" ++ back :=
      String.toList_injective (by simp)
    refine plain_congr workingDirectory ?_ ?_
    · rw [String.append_assoc, String.append_assoc, leadingSlashes_append part,
        leadingSlashes_append part]
    · rw [split, segments_append_slash, segments_append_slash, segments_ended]
  | @dotted front back clear =>
    have split : front ++ "/./" ++ back = front ++ "/" ++ ("./" ++ back) :=
      String.toList_injective (by simp)
    refine plain_congr workingDirectory ?_ ?_
    · rcases clear with part | relative
      · rw [String.append_assoc, String.append_assoc, leadingSlashes_append part,
          leadingSlashes_append part]
      · rw [split, leadingSlashes_append_relative _ relative,
          leadingSlashes_append_relative _ (relative_dot back)]
    · rw [split, segments_append_slash, segments_append_slash, segments_dot]
  | @dotFirst path relative =>
    refine plain_congr workingDirectory ?_ (segments_dot path).symm
    rw [leadingSlashes_of_relative relative, leadingSlashes_of_relative (relative_dot path)]
  | @dotLast front =>
    have split : front ++ "/." = front ++ "/" ++ "." := String.toList_injective (by simp)
    refine plain_congr workingDirectory ?_ ?_
    · rw [split, leadingSlashes_append_relative (front ++ "/") rfl]
    · rw [split, segments_append_slash, segments_ended]
      exact (List.append_nil _).symm
  | @ended path part =>
    exact plain_congr workingDirectory (leadingSlashes_append part _).symm (segments_ended _).symm
  | @fromHome path relative =>
    rw [plain_join workingDirectory _ relative, home.plain, plain, start, relative]
    rfl
  | symm _ ih => exact ih.symm
  | trans _ _ first second => exact first.trans second

end Path

namespace Script

open Testbed.Path Text

namespace Launcher

theorem eq_of_ofCommand? {command extension : String} {l : Launcher}
    (made : ofCommand? command extension = some l) :
    l = ⟨(words command.toList).map String.ofList,
      String.ofList (extension.toList.dropWhile (· = '.'))⟩ := by
  unfold ofCommand? at made
  dsimp only at made
  split at made
  · cases made
  · exact (Option.some.inj made).symm

theorem relative_fileName (l : Launcher) (script : Name) :
    isAbsolute (l.fileName script.text) = false := by
  unfold fileName
  split
  · cases script <;> rfl
  · cases script <;> simp [isAbsolute, Name.text]

theorem fileName_ne_empty (l : Launcher) (script : Name) : l.fileName script.text ≠ "" := by
  unfold fileName
  split
  · cases script <;> decide
  · cases script <;> simp [Name.text]

/-- The absolute path of a script's file, seen from a directory that is known. -/
def filePath (l : Launcher) (workingDirectory buildDirectory : String) (script : Name) : String :=
  absolute workingDirectory (join (join buildDirectory "utils") (l.fileName script.text))

section Resolve

variable (l : Launcher) (script : Name) {buildDirectory : String}

theorem join_fileName_ne_empty (base : String) : join base (l.fileName script.text) ≠ "" :=
  join_ne_empty base (l.relative_fileName script) (l.fileName_ne_empty script)

theorem isAbsolute_file : isAbsolute (join (join buildDirectory "utils") (l.fileName script.text)) =
    isAbsolute buildDirectory := by
  have utils : isAbsolute "utils" = false := rfl
  rw [isAbsolute_join _ (l.relative_fileName script), isAbsolute_join _ utils]

theorem scriptPath_ok (workingDirectory : String) :
    l.scriptPath (.ok workingDirectory) buildDirectory script.text =
      .ok (l.filePath workingDirectory buildDirectory script) := by
  rw [scriptPath, resolve_ok (l.join_fileName_ne_empty script _)]
  rfl

/-- In an absolute build directory a script is found without the working directory. -/
theorem scriptPath_of_isAbsolute (h : isAbsolute buildDirectory = true)
    (reading : Except SystemFault String) (workingDirectory : String) :
    l.scriptPath reading buildDirectory script.text =
      .ok (l.filePath workingDirectory buildDirectory script) := by
  rw [scriptPath, resolve_of_isAbsolute ((l.isAbsolute_file script).trans h) _ workingDirectory]
  rfl

theorem scriptPath_error (relative : isAbsolute buildDirectory = false) (reason : SystemFault) :
    l.scriptPath (.error reason) buildDirectory script.text =
      .error ⟨script.text, reason⟩ := by
  rw [scriptPath, resolve_error (l.join_fileName_ne_empty script _)
    ((l.isAbsolute_file script).trans relative)]
  rfl

end Resolve

/-- The path of a script, from the place of the build directory. -/
theorem filePath_eq (l : Launcher) (workingDirectory buildDirectory : String) (script : Name) :
    l.filePath workingDirectory buildDirectory script =
      if (l.fileName script.text).toList.getLast? = some '/' then
        join ((segments (l.fileName script.text)).foldl join
          (join (plain workingDirectory buildDirectory) "utils")) ""
      else (segments (l.fileName script.text)).foldl join
        (join (plain workingDirectory buildDirectory) "utils") := by
  have place : plain workingDirectory (join buildDirectory "utils") =
      join (plain workingDirectory buildDirectory) "utils" := plain_join _ _ rfl
  rw [filePath, absolute_join _ _ (l.relative_fileName script) (l.fileName_ne_empty script),
    place]

theorem filePath_congr (l : Launcher) {workingDirectory path other : String} (script : Name)
    (same : plain workingDirectory path = plain workingDirectory other) :
    l.filePath workingDirectory path script = l.filePath workingDirectory other script := by
  rw [filePath_eq, filePath_eq, same]

theorem segments_filePath (l : Launcher) (workingDirectory buildDirectory : String)
    (script : Name) : segments (l.filePath workingDirectory buildDirectory script) =
      segments (absolute workingDirectory buildDirectory) ++
        "utils" :: segments (l.fileName script.text) := by
  have utils : isAbsolute "utils" = false := rfl
  rw [filePath, segments_absolute, plain_join _ _ (l.relative_fileName script),
    segments_foldl_join fun _ => isSegment_of_mem, plain_join _ _ utils,
    segments_foldl_join fun _ => isSegment_of_mem, segments_absolute, List.append_assoc]
  rfl

/-- Every script has a path as soon as the working directory is known, or the build directory is
absolute, and fails to have one in no other case. The path is absolute, and stays the same wherever
it is seen from. Its segments are those of the build directory's absolute form, the directory of the
scripts, and the file. It makes no difference in which way the build directory is written. The
script is started by the words of the command, its path and its arguments. -/
theorem scriptPath_settled {command extension : String} {l : Launcher}
    (made : ofCommand? command extension = some l) {workingDirectory : String}
    (home : IsPlace workingDirectory) (buildDirectory : String) (script : Name)
    (args : Arguments) :
    let ending := String.ofList (extension.toList.dropWhile (· = '.'))
    let file := if ending = "" then script.text else script.text ++ "." ++ ending
    ∃ path, l.scriptPath (.ok workingDirectory) buildDirectory script.text = .ok path ∧
      (∀ reason, l.scriptPath (.error reason) buildDirectory script.text =
        if isAbsolute buildDirectory then .ok path else .error ⟨script.text, reason⟩) ∧
      isAbsolute path = true ∧ (∀ other, absolute other path = path) ∧
      segments path = segments (absolute workingDirectory buildDirectory) ++
        "utils" :: segments file ∧
      path = absolute workingDirectory
        (join (join (absolute workingDirectory buildDirectory) "utils") file) ∧
      (∀ respelled, Respelled workingDirectory buildDirectory respelled →
        l.scriptPath (.ok workingDirectory) respelled script.text = .ok path) ∧
      l.commandLine (.ok workingDirectory) buildDirectory script.text args =
        .ok (((splitOn ' ' (spaced command.toList)).filter (· ≠ [])).map String.ofList ++
          path :: args.toWords) := by
  intro ending file
  have launcher := eq_of_ofCommand? made
  have same : l.fileName script.text = file := by
    rw [launcher, fileName]
    simp only [String.isEmpty_iff, file, ending]
  refine ⟨l.filePath workingDirectory buildDirectory script, l.scriptPath_ok script _, ?_,
    isAbsolute_absolute home _, fun other => absolute_absolute home _ other, ?_, ?_, ?_, ?_⟩
  · intro reason
    split
    case isTrue absolute => exact l.scriptPath_of_isAbsolute script absolute _ _
    case isFalse relative => exact l.scriptPath_error script (by simpa using relative) reason
  · rw [← same]
    exact l.segments_filePath workingDirectory buildDirectory script
  · rw [← same]
    exact l.filePath_congr script (plain_absolute home buildDirectory workingDirectory).symm
  · intro respelled h
    rw [scriptPath_ok, l.filePath_congr script (plain_of_respelled home h).symm]
  · have program : l.program = (words command.toList).map String.ofList :=
      congrArg Launcher.program launcher
    rw [commandLine, scriptPath_ok, ← words_eq, ← program]
    rfl

/-- The build directory in the working directory, and the same with a dot and a slash at the end.
Only the second has scripts while the working directory cannot be told. -/
theorem scriptPath_settled_respelled :
    let l : Launcher := ⟨["/usr/bin/env", "php", "-Cq"], "php"⟩
    let path := "/srv/app/data/build/utils/setup.php"
    ofCommand? " /usr/bin/env php\t-Cq" "..php" = some l ∧ IsPlace "/srv/app" ∧
      Respelled "/srv/app" "data//build" "/srv/app/data/./build/" ∧
      l.scriptPath (.ok "/srv/app") "data//build" "setup" = .ok path ∧
      l.scriptPath (.ok "/srv/app") "/srv/app/data/./build/" "setup" = .ok path ∧
      l.scriptPath (.error .noSuchEntry) "data//build" "setup" =
        .error ⟨"setup", .noSuchEntry⟩ ∧
      l.scriptPath (.error .noSuchEntry) "/srv/app/data/./build/" "setup" = .ok path ∧
      l.commandLine (.ok "/srv/app") "data//build" "setup" { flags := ["create-db"] } =
        .ok ["/usr/bin/env", "php", "-Cq", path, "--create-db"] := by
  intro l path
  have made : ofCommand? " /usr/bin/env php\t-Cq" "..php" = some l := by decide +kernel
  have home : IsPlace "/srv/app" := ⟨by decide, by decide +kernel⟩
  have respelled : Respelled "/srv/app" "data//build" "/srv/app/data/./build/" := by
    have single : Respelled "/srv/app" ("data" ++ "/" ++ "build") ("data" ++ "//" ++ "build") :=
      .doubled ⟨'d', by simp, by decide⟩
    have dotted : Respelled "/srv/app" ("data" ++ "/" ++ "build") ("data" ++ "/./" ++ "build") :=
      .dotted (.inr rfl)
    have ended : Respelled "/srv/app" "data/./build" "data/./build/" :=
      .ended ⟨'d', by simp, by decide⟩
    exact single.symm.trans (dotted.trans (ended.trans (.fromHome rfl)))
  obtain ⟨found, located, lost, -, -, -, -, same, started⟩ :=
    scriptPath_settled made home "data//build" .setup { flags := ["create-db"] }
  obtain rfl : found = path := by
    have here : l.filePath "/srv/app" "data//build" .setup = path := by decide +kernel
    exact Except.ok.inj (located.symm.trans (here ▸ l.scriptPath_ok .setup _))
  obtain ⟨_, located', lost', -⟩ :=
    scriptPath_settled made home "/srv/app/data/./build/" .setup { flags := ["create-db"] }
  obtain rfl := Except.ok.inj (located'.symm.trans (same _ respelled))
  exact ⟨made, home, respelled, located, located', lost .noSuchEntry, lost' .noSuchEntry,
    started.trans (congrArg Except.ok (by decide +kernel))⟩

end Launcher

end Script

end Testbed
