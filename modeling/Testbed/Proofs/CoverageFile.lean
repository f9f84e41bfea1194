import Testbed.Proofs.AbsolutePath
import Testbed.Proofs.Numerals
import Testbed.Proofs.Operation
import Testbed.Proofs.PlainWorld

/-!
# Files for coverage dumps

The number of the next dump is changed by nothing but giving it out. So the dumps of a run are
numbered from one on without a gap, whatever else happens and fails in between. No two numbers make
the same path, and as long as six digits are enough, the paths are in the order of their numbers.
-/

namespace Testbed

open Text

namespace Fixture

/-! ## The name of a dump -/

def coverageName (number : Nat) : String :=
  String.ofList (padded 6 number) ++ ".cov"

theorem toList_coverageName (number : Nat) :
    (coverageName number).toList = padded 6 number ++ ['.', 'c', 'o', 'v'] := by
  simp [coverageName]

/-- A number with zeros in front up to six digits, and the ending. -/
theorem coverageName_eq (number : Nat) : coverageName number =
    String.ofList (List.replicate (6 - (toString number).length) '0') ++ toString number ++
      ".cov" := by
  apply String.toList_injective
  rw [toList_coverageName, padded, String.toList_append, String.toList_append,
    String.toList_ofList, ← String.length_toList, toList_toString]
  rfl

theorem isSegment_coverageName (number : Nat) : Path.IsSegment (coverageName number) := by
  refine ⟨fun slash => ?_, fun empty => ?_, fun dot => ?_⟩
  · rw [toList_coverageName] at slash
    rcases List.mem_append.mp slash with digit | ending
    · exact absurd (isDigit_of_mem_padded digit) (by decide)
    · exact absurd ending (by decide)
  · have length := congrArg (·.toList.length) empty
    simp [toList_coverageName] at length
  · have length := congrArg (·.toList.length) dot
    simp [toList_coverageName] at length

theorem coverageName_injective {m n : Nat} (same : coverageName m = coverageName n) : m = n := by
  have text := congrArg String.toList same
  rw [toList_coverageName, toList_coverageName] at text
  rw [← value_padded 6 m, ← value_padded 6 n, List.append_cancel_right text]

/-- As long as six digits are enough, names are in the order of their numbers. -/
theorem coverageName_lt {m n : Nat} (less : m < n) (narrow : n ≤ 999999) :
    coverageName m < coverageName n := by
  have short {k : Nat} (h : k ≤ 999999) : (padded 6 k).length = 6 :=
    length_padded ((Nat.length_toDigits_le_iff (by decide) (by decide)).mpr (by omega))
  have value {k : Nat} : Nat.ofDigitChars 10 (padded 6 k) 0 = k := by
    rw [← value_eq_ofDigitChars, value_padded]
  rw [String.lt_iff, toList_coverageName, toList_coverageName]
  refine append_lt_append ((short (by omega)).trans (short narrow).symm)
    (fun _ => isDigit_of_mem_padded) (fun _ => isDigit_of_mem_padded) (n := 0) ?_ _ _
  rwa [value, value]

section Place

variable (p : Plan) (directory : String)

/-- The directory of dumps, made absolute if that can be done. -/
def dumpHome (fault : Option SystemFault) : String :=
  if Path.isAbsolute directory || fault.isNone then Path.absolute p.workingDirectory directory
  else directory

/-- A dump lies in the directory of dumps. -/
theorem coveragePath_eq (fault : Option SystemFault) (number : UInt32) :
    coveragePath (p.directory fault) directory number =
      Path.join (dumpHome p directory fault) (coverageName number.toNat) := by
  have segment := isSegment_coverageName number.toNat
  have filled := Path.join_ne_empty directory segment.relative segment.filled
  have whole := Path.absolute_join_segment p.workingDirectory directory segment
  have place := Path.isAbsolute_join directory segment.relative
  have named : String.ofList (padded 6 number.toNat) ++ ".cov" = coverageName number.toNat := rfl
  unfold coveragePath dumpHome
  simp only [named]
  cases absolute : Path.isAbsolute directory with
  | true =>
    rw [Path.resolve_of_isAbsolute (place.trans absolute) _ p.workingDirectory, Bool.true_or,
      if_pos rfl]
    exact whole
  | false =>
    cases fault with
    | none =>
      rw [Plan.directory, Path.resolve_ok filled, Option.isNone_none, Bool.or_true, if_pos rfl]
      exact whole
    | some reason =>
      rw [Plan.directory, Path.resolve_error filled (place.trans absolute), Option.isNone_some,
        Bool.or_false, if_neg Bool.false_ne_true]

/-- Dumps with different numbers differ wherever they lie. -/
theorem number_of_join {home other : String} {m n : Nat}
    (same : Path.join home (coverageName m) = Path.join other (coverageName n)) : m = n := by
  have parts := congrArg Path.segments same
  rw [Path.segments_join _ (isSegment_coverageName m).relative,
    Path.segments_join _ (isSegment_coverageName n).relative,
    Path.segments_of_isSegment (isSegment_coverageName m),
    Path.segments_of_isSegment (isSegment_coverageName n)] at parts
  have last := List.append_inj_right' parts rfl
  exact coverageName_injective (List.singleton_inj.mp last)

theorem join_coverageName_lt (home : String) {m n : Nat} (less : m < n) (narrow : n ≤ 999999) :
    Path.join home (coverageName m) < Path.join home (coverageName n) := by
  rw [Path.join_eq_append _ (isSegment_coverageName m).relative,
    Path.join_eq_append _ (isSegment_coverageName n).relative, String.lt_iff,
    String.toList_append, String.toList_append]
  exact List.append_left_lt (String.lt_iff.mp (coverageName_lt less narrow))

end Place

/-! ## The number of the next dump -/

section Number

open Work

variable {σ Session : Type} {p : Plan} {B : Backend σ Session}

theorem nextCoverageFile_none (off : p.config.coverageDirectory = none) (b : Bench σ) :
    nextCoverageFile p B b = (.ok none, b) := by
  rw [nextCoverageFile, off]
  rfl

theorem nextCoverageFile_some {directory : String}
    (on : p.config.coverageDirectory = some directory) (b : Bench σ) :
    nextCoverageFile p B b =
      (.ok (some (Path.join (dumpHome p directory (B.directoryFault b.world))
        (coverageName b.fixture.coverageNumber.toNat))),
      { b with fixture := { b.fixture with coverageNumber := b.fixture.coverageNumber + 1 } }) := by
  rw [nextCoverageFile, on, ← coveragePath_eq]
  rfl

end Number

end Fixture

namespace Operation

open Fixture Work

variable {σ Session : Type} {p : Plan} {B : Backend σ Session}

def isCoverage : Operation Session → Bool
  | nextCoverageFile => true
  | _ => false

/-- The number of the next dump is `n`. -/
def Numbered (n : UInt32) (b : Bench σ) : Prop :=
  b.fixture.coverageNumber = n

/-- Nothing else changes the number of the next dump, whether it succeeds or fails. -/
theorem numbered_perform {op : Operation Session} (other : op.isCoverage = false) (n : UInt32) :
    Keeps (Numbered n) (op.perform p B) := by
  have closed : Closed (Keeps (Numbered n : Bench σ → Prop)) := closed_keeps fun _ _ h => h
  have script (name : Script.Name) (args : Script.Arguments) :
      Keeps (Numbered n) (Fixture.runScript p B name args) :=
    closed_runScript closed fun _ _ h => h
  have leave : Keeps (Numbered n) (leaveWebsite B) :=
    closed_leaveWebsite closed (fun _ _ h => h) fun _ h => h
  have make (environment : Dictionary) : Keeps (Numbered n) (makeWebsite B environment) :=
    closed_makeWebsite closed (fun _ h => h) (fun _ _ _ h => h) fun _ _ h => h
  have write (database : String) : Keeps (Numbered n) (Fixture.writeConfig p B database) :=
    closed_writeConfig closed leave make (fun _ _ _ h => h) (script _ _)
  have fill : Keeps (Numbered n) (importNothing p B) :=
    closed_importNothing closed (fun _ h => h) (fun _ _ _ h => h) (script _) fun _ _ h => h
  refine closed_perform_server closed (fun _ _ _ _ h => h) op (fun _ _ h => h) (fun _ h => h)
    write script fill (fun _ _ h => h) ?_
  rintro rfl
  cases other

variable (p B) in
/-- What came of asking for files, among all that came of a run. -/
def coverageReplies (ops : List (Operation Session)) (b : Bench σ) :
    List (Except Failure (Reply Session)) :=
  ((ops.zip (run p B ops b).1).filter (·.1.isCoverage)).map Prod.snd

theorem coverageReplies_cons (op : Operation Session) (ops : List (Operation Session))
    (b : Bench σ) : coverageReplies p B (op :: ops) b =
      if op.isCoverage then (op.perform p B b).1 :: coverageReplies p B ops (op.perform p B b).2
      else coverageReplies p B ops (op.perform p B b).2 := by
  rw [coverageReplies, run_cons, List.zip_cons_cons, List.filter_cons]
  split <;> rfl

variable (p B) in
/-- Why the working directory could not be told, whenever a file was asked for. -/
def coverageFaults : List (Operation Session) → Bench σ → List (Option SystemFault)
  | [], _ => []
  | op :: ops, b =>
    if op.isCoverage then
      B.directoryFault b.world :: coverageFaults ops (op.perform p B b).2
    else coverageFaults ops (op.perform p B b).2

theorem eq_of_isCoverage {op : Operation Session} (asked : op.isCoverage = true) :
    op = .nextCoverageFile := by
  cases op <;> first | rfl | cases asked

theorem length_coverageFaults (ops : List (Operation Session)) (b : Bench σ) :
    (coverageFaults p B ops b).length = ops.countP isCoverage := by
  induction ops generalizing b with
  | nil => rfl
  | cons op ops ih =>
    rw [coverageFaults, List.countP_cons]
    split
    · rw [List.length_cons, ih]
    · exact ih _

/-- The reply to a call, of which it is known whether the working directory could be told. -/
def dumpReply (p : Plan) (directory : String) (call : Option SystemFault × Nat) :
    Except Failure (Reply Session) :=
  .ok (.file (some (Path.join (dumpHome p directory call.1) (coverageName call.2))))

/-- No dump is given out twice, even where it cannot be made absolute. -/
theorem nodup_dumpReplies (directory : String) (faults : List (Option SystemFault)) (n : Nat) :
    ((faults.zipIdx n).map
      (dumpReply p directory : _ → Except Failure (Reply Session))).Nodup := by
  have numbers : (faults.zipIdx n).Pairwise fun call later => call.2 ≠ later.2 := by
    rw [← List.pairwise_map, List.zipIdx_map_snd]
    exact List.nodup_range'
  refine numbers.map _ fun call later differ same => ?_
  injection same with same
  injection same with same
  exact differ (number_of_join (Option.some.inj same))

/-- Where all dumps can be made absolute, the replies depend on nothing but the number of calls. -/
theorem dumpReplies_told {directory : String} {faults : List (Option SystemFault)}
    (told : Path.isAbsolute directory = true ∨ ∀ fault ∈ faults, fault = none) (n : Nat) :
    (faults.zipIdx n).map (dumpReply p directory : _ → Except Failure (Reply Session)) =
      (List.range' n faults.length).map fun k => .ok (.file (some
        (Path.join (Path.absolute p.workingDirectory directory) (coverageName k)))) := by
  have home (call : Option SystemFault × Nat) (mem : call ∈ faults.zipIdx n) :
      dumpHome p directory call.1 = Path.absolute p.workingDirectory directory := by
    refine if_pos ?_
    rcases told with always | told
    · rw [always, Bool.true_or]
    · rw [told _ (List.fst_mem_of_mem_zipIdx mem), Option.isNone_none, Bool.or_true]
  rw [← List.zipIdx_map_snd n faults, List.map_map]
  refine List.map_congr_left fun call mem => ?_
  rw [dumpReply, home call mem]
  rfl

/-- The dumps of a run are numbered from the number of the next one on. -/
theorem coverage_run {directory : String} (on : p.config.coverageDirectory = some directory)
    (ops : List (Operation Session)) (b : Bench σ)
    (few : b.fixture.coverageNumber.toNat + ops.countP isCoverage < UInt32.size) :
    coverageReplies p B ops b =
        ((coverageFaults p B ops b).zipIdx b.fixture.coverageNumber.toNat).map
          (dumpReply p directory) ∧
      (run p B ops b).2.fixture.coverageNumber.toNat =
        b.fixture.coverageNumber.toNat + ops.countP isCoverage := by
  induction ops generalizing b with
  | nil => exact ⟨rfl, rfl⟩
  | cons op ops ih =>
    rw [List.countP_cons] at few
    rw [coverageReplies_cons, coverageFaults, List.countP_cons, run_cons]
    by_cases asked : op.isCoverage = true
    · obtain rfl := eq_of_isCoverage asked
      rw [if_pos asked] at few
      have answer : Operation.nextCoverageFile.perform p B b =
          (dumpReply p directory (B.directoryFault b.world, b.fixture.coverageNumber.toNat),
            { b with fixture :=
              { b.fixture with coverageNumber := b.fixture.coverageNumber + 1 } }) := by
        rw [perform, bind_apply, nextCoverageFile_some on]
        rfl
      have next : (b.fixture.coverageNumber + 1).toNat = b.fixture.coverageNumber.toNat + 1 := by
        rw [UInt32.toNat_add]
        exact Nat.mod_eq_of_lt (by change _ + 1 < UInt32.size; omega)
      obtain ⟨replies, number⟩ := ih (Operation.nextCoverageFile.perform p B b).2
        (by rw [answer]; change (b.fixture.coverageNumber + 1).toNat + _ < _; omega)
      rw [answer] at replies number ⊢
      rw [if_pos asked, if_pos asked, if_pos asked, List.zipIdx_cons, List.map_cons, replies]
      refine ⟨by rw [← next], number.trans ?_⟩
      change (b.fixture.coverageNumber + 1).toNat + _ = _
      omega
    · have kept := numbered_perform (p := p) (B := B) (by simpa using asked) _ b rfl
      rw [if_neg asked] at few
      obtain ⟨replies, number⟩ := ih (op.perform p B b).2 (by rw [kept]; exact few)
      rw [kept] at replies number
      rw [if_neg asked, if_neg asked, if_neg asked]
      exact ⟨replies, number⟩

/-- Without a directory for dumps there are no files. -/
theorem coverage_off (off : p.config.coverageDirectory = none) (ops : List (Operation Session))
    (b : Bench σ) : coverageReplies p B ops b =
      List.replicate (ops.countP isCoverage) (.ok (.file none)) := by
  induction ops generalizing b with
  | nil => rfl
  | cons op ops ih =>
    rw [coverageReplies_cons, List.countP_cons, ih]
    by_cases asked : op.isCoverage = true
    · obtain rfl := eq_of_isCoverage asked
      have answer : Operation.nextCoverageFile.perform p B b = (.ok (.file none), b) := by
        rw [perform, bind_apply, nextCoverageFile_none off]
        rfl
      rw [answer, if_pos asked, if_pos asked, List.replicate_succ]
    · rw [if_neg asked, if_neg asked]
      rfl

/-- With a directory for dumps, the calls of a run get the dumps one, two, three and so on in this
directory, whatever happens and fails in between. The path of a dump is absolute, unless the
directory is relative and the working directory cannot be told at this call. No dump is given out
twice, and up to the last number of six digits, the paths are in the order of the calls. Without a
directory every call gets nothing and changes nothing. -/
theorem coverageFiles_numbered (p : Plan) (B : Backend σ Session) (ops : List (Operation Session))
    (log : List Log.Record) (world : σ) (few : ops.countP isCoverage < UInt32.size - 1) :
    let fresh : Bench σ := { log, world }
    let calls := ops.countP isCoverage
    let faults := coverageFaults p B ops fresh
    let file (k : Nat) : String :=
      String.ofList (List.replicate (6 - (toString k).length) '0') ++ toString k ++ ".cov"
    (∀ directory, p.config.coverageDirectory = some directory →
      let absolute (k : Nat) := Path.absolute p.workingDirectory (Path.join directory (file k))
      let path (fault : Option SystemFault) (k : Nat) :=
        if Path.isAbsolute directory || fault.isNone then absolute k
        else Path.join directory (file k)
      (∀ k, absolute k = Path.join (Path.absolute p.workingDirectory directory) (file k)) ∧
      faults.length = calls ∧
      coverageReplies p B ops fresh =
        (faults.zipIdx 1).map (fun call => .ok (.file (some (path call.1 call.2)))) ∧
      (Path.isAbsolute directory = true ∨ (∀ fault ∈ faults, fault = none) →
        coverageReplies p B ops fresh =
          (List.range' 1 calls).map (fun k => .ok (.file (some (absolute k))))) ∧
      (coverageReplies p B ops fresh).Nodup ∧
      (∀ fault i k, i < k → k ≤ 999999 → path fault i < path fault k) ∧
      (run p B ops fresh).2.fixture.coverageNumber.toNat = calls + 1) ∧
    (p.config.coverageDirectory = none →
      (∀ b : Bench σ, nextCoverageFile.perform p B b = (.ok (.file none), b)) ∧
      coverageReplies p B ops fresh = List.replicate calls (.ok (.file none))) := by
  intro fresh calls faults file
  have spelled : file = coverageName := funext fun k => (coverageName_eq k).symm
  clear_value file
  subst spelled
  refine ⟨fun directory on => ?_, fun off => ⟨fun b => ?_, coverage_off off ops fresh⟩⟩
  · intro absolute path
    have inside (k : Nat) :
        absolute k = Path.join (Path.absolute p.workingDirectory directory) (coverageName k) :=
      Path.absolute_join_segment _ _ (isSegment_coverageName k)
    have placed (fault : Option SystemFault) (k : Nat) :
        path fault k = Path.join (dumpHome p directory fault) (coverageName k) := by
      unfold path dumpHome
      split
      · exact inside k
      · rfl
    have replied : (fun call => .ok (.file (some (path call.1 call.2)))) =
        (dumpReply p directory : _ → Except Failure (Reply Session)) :=
      funext fun call => by rw [placed]; rfl
    have enough : 1 + ops.countP isCoverage < UInt32.size := by omega
    obtain ⟨replies, number⟩ := coverage_run (B := B) on ops fresh enough
    have replies : coverageReplies p B ops fresh =
      (faults.zipIdx 1).map (dumpReply p directory) := replies
    have counted : faults.length = calls := length_coverageFaults ops fresh
    refine ⟨inside, counted, by rw [replied]; exact replies, fun told => ?_, ?_,
      fun fault i k less narrow => ?_, number.trans (Nat.add_comm _ _)⟩
    · rw [replies, dumpReplies_told told, counted]
      simp only [inside]
    · rw [replies]
      exact nodup_dumpReplies directory faults 1
    · rw [placed, placed]
      exact join_coverageName_lt _ less narrow
  · rw [perform, bind_apply, nextCoverageFile_none off]
    rfl

/-- A set-up fails between the second dump and the third. Without a working directory the paths stay
as they are. -/
theorem coverageFiles_numbered_failing :
    let p : Plan := { PlainWorld.plan with
      config := { PlainWorld.plan.config with coverageDirectory := some "cov//new" } }
    let ops : List (Operation String) := [.nextCoverageFile, .nextCoverageFile, .setupTemplate,
      .nextCoverageFile]
    let fresh : Bench PlainWorld := { world := { troubles := [true] } }
    let lost : Bench PlainWorld := { world := { lost := some .noSuchEntry } }
    ops.countP isCoverage < UInt32.size - 1 ∧
      (setupTemplate.perform p PlainWorld.backend fresh).1 = .error (.told "no server") ∧
      coverageReplies p PlainWorld.backend ops fresh =
        [.ok (.file (some "/cov/new/000001.cov")), .ok (.file (some "/cov/new/000002.cov")),
          .ok (.file (some "/cov/new/000003.cov"))] ∧
      coverageReplies p PlainWorld.backend ops lost =
        [.ok (.file (some "cov//new/000001.cov")), .ok (.file (some "cov//new/000002.cov")),
          .ok (.file (some "cov//new/000003.cov"))] ∧
      (coverageReplies p PlainWorld.backend ops lost).Nodup ∧
      "/cov/new/000002.cov" < "/cov/new/000010.cov" := by
  intro p ops fresh lost
  have few : ops.countP isCoverage < UInt32.size - 1 := by decide
  obtain ⟨-, -, replies, -, -, ascending, -⟩ :=
    (coverageFiles_numbered p PlainWorld.backend ops [] fresh.world few).1 "cov//new" rfl
  obtain ⟨-, -, replies', -, different, -⟩ :=
    (coverageFiles_numbered p PlainWorld.backend ops [] lost.world few).1 "cov//new" rfl
  have told : coverageFaults p PlainWorld.backend ops fresh = [none, none, none] := by
    decide +kernel
  have untold : coverageFaults p PlainWorld.backend ops lost =
      [some .noSuchEntry, some .noSuchEntry, some .noSuchEntry] := by decide +kernel
  rw [told] at replies
  rw [untold] at replies'
  let given (path : String) : Except Failure (Reply String) := .ok (.file (some path))
  let path (fault : Option SystemFault) (k : Nat) : String :=
    let file :=
      String.ofList (List.replicate (6 - (toString k).length) '0') ++ toString k ++ ".cov"
    if Path.isAbsolute "cov//new" || fault.isNone then
      Path.absolute "/" (Path.join "cov//new" file)
    else Path.join "cov//new" file
  have here : [path none 1, path none 2, path none 3] =
      ["/cov/new/000001.cov", "/cov/new/000002.cov", "/cov/new/000003.cov"] := by decide +kernel
  let stays := path (some .noSuchEntry)
  have there : [stays 1, stays 2, stays 3] =
      ["cov//new/000001.cov", "cov//new/000002.cov", "cov//new/000003.cov"] := by decide +kernel
  have late : path none 2 = "/cov/new/000002.cov" ∧ path none 10 = "/cov/new/000010.cov" := by
    decide +kernel
  refine ⟨few, rfl, replies.trans (congrArg (List.map given) here),
    replies'.trans (congrArg (List.map given) there), different, ?_⟩
  rw [← late.1, ← late.2]
  exact ascending none 2 10 (by decide) (by decide)

end Operation

end Testbed
