import Testbed.Config
import Testbed.Log.Redaction
import Testbed.Proofs.Result
import Testbed.Proofs.Splitting

/-!
# What masking hides

A password is written into a connection string as it is, and the string is masked segment by
segment. So a password without a semicolon is hidden, whatever it is. Of any other password only the
part in front of the first semicolon is hidden, and what follows is taken for segments of its own.
No password is refused for that.
-/

namespace Testbed

namespace Log

open Text

theorem isPasswordSegment_append (value : List Char) :
    isPasswordSegment ("password=".toList ++ value) = true := by
  rw [isPasswordSegment, after?_append]
  rfl

theorem redact_dsn (dsn : String) : redact "dsn" dsn = maskDsn dsn := by
  have key : String.ofList (lower "dsn".toList) = "dsn" := by decide +kernel
  rw [redact, key]
  rfl

/-- Masking treats what stands in front of a semicolon and what follows it on their own. -/
theorem maskDsn_append (front back : String) :
    maskDsn (front ++ ";" ++ back) = maskDsn front ++ ";" ++ maskDsn back := by
  have list : (front ++ ";" ++ back).toList = front.toList ++ ';' :: back.toList := by simp
  have pieces (s : String) : (splitOn ';' s.toList).map maskSegment ≠ [] := by
    simpa using splitOn_ne_nil ';' s.toList
  unfold maskDsn
  rw [list, splitOn_append_sep, List.map_append, join_append ';' (pieces front) (pieces back),
    String.ofList_append, String.ofList_cons, String.append_assoc]
  rfl

/-- A single segment that sets a password. -/
theorem maskDsn_secret {secret : List Char} (plain : ';' ∉ secret) :
    maskDsn ("password=" ++ String.ofList secret) = "password=REDACTED" := by
  have list : ("password=" ++ String.ofList secret).toList = "password=".toList ++ secret := by simp
  have whole : ';' ∉ "password=".toList ++ secret := by simpa using plain
  unfold maskDsn
  rw [list, splitOn_of_not_mem whole]
  simp only [List.map_cons, List.map_nil, maskSegment, isPasswordSegment_append, if_true, join]
  rfl

/-- What masking shows of a password: all from its first semicolon on, masked once more. -/
def exposed (password : String) : String :=
  match (cut? ';' password.toList).map Prod.snd with
  | none => ""
  | some rest => ";" ++ maskDsn (String.ofList rest)

theorem exposed_eq_empty_iff (password : String) :
    exposed password = "" ↔ ';' ∉ password.toList := by
  rw [← cut?_eq_none_iff, exposed]
  cases cut? ';' password.toList with
  | none => simp
  | some parts => simp

/-- A segment that sets a password, together with all that a semicolon in the password cuts off. -/
theorem maskDsn_assigned (password : String) :
    maskDsn ("password=" ++ password) = "password=REDACTED" ++ exposed password := by
  unfold exposed
  cases cut : cut? ';' password.toList with
  | none =>
    have masked := maskDsn_secret (cut?_eq_none_iff.mp cut)
    rwa [String.ofList_toList] at masked
  | some parts =>
    obtain ⟨secret, rest⟩ := parts
    have whole : "password=" ++ password =
        "password=" ++ String.ofList secret ++ ";" ++ String.ofList rest := by
      simp [← String.toList_inj, eq_append_of_cut? cut]
    rw [whole, maskDsn_append, maskDsn_secret (not_mem_of_cut? cut), String.append_assoc]
    rfl

/-- The password is replaced up to its first semicolon, and what follows is shown. -/
theorem maskDsn_password_eq (front password : String) :
    maskDsn (front ++ ";password=" ++ password) =
      maskDsn front ++ ";password=REDACTED" ++ exposed password := by
  have apart (x y z : String) : x ++ ";" ++ (y ++ z) = x ++ (";" ++ y) ++ z := by
    simp only [String.append_assoc]
  calc maskDsn (front ++ ";password=" ++ password)
    _ = maskDsn (front ++ ";" ++ ("password=" ++ password)) :=
      congrArg maskDsn (apart front "password=" password).symm
    _ = maskDsn front ++ ";" ++ ("password=REDACTED" ++ exposed password) := by
      rw [maskDsn_append, maskDsn_assigned]
    _ = maskDsn front ++ ";password=REDACTED" ++ exposed password := apart _ _ _

/-- Passwords that are the same from their first semicolon on look the same. -/
theorem maskDsn_password {front first second : String}
    (same : first.toList.dropWhile (· ≠ ';') = second.toList.dropWhile (· ≠ ';')) :
    maskDsn (front ++ ";password=" ++ first) = maskDsn (front ++ ";password=" ++ second) := by
  have shown : exposed first = exposed second := by
    unfold exposed
    rw [map_snd_cut?, map_snd_cut?, same]
  rw [maskDsn_password_eq, maskDsn_password_eq, shown]

end Log

/-- The beginning of a connection string that does not depend on the password. -/
def Connection.Params.openPart (c : Connection.Params) (database : String) : String :=
  { c with password := none }.dsn database

theorem Connection.Params.dsn_password (c : Connection.Params) (database password : String) :
    { c with password := some password }.dsn database =
      c.openPart database ++ ";password=" ++ password := by
  simp [openPart, dsn, named, segment, String.join, String.append_assoc]

/-- A masked password looks like one without a semicolon if and only if it has none itself. What is
shown of two passwords decides whether they can be told apart. -/
theorem password_hidden_iff (c : Connection.Params) (database password : String) :
    let masked (secret : String) :=
      Log.maskDsn ({ c with password := some secret }.dsn database)
    (∀ secret, Log.redact "dsn" ({ c with password := some secret }.dsn database) = masked secret) ∧
    masked password =
      Log.maskDsn (c.openPart database) ++ ";password=REDACTED" ++ Log.exposed password ∧
    (∀ other, masked password = masked other ↔ Log.exposed password = Log.exposed other) ∧
    ∀ other, ';' ∉ other.toList → (masked password = masked other ↔ ';' ∉ password.toList) := by
  intro masked
  have shown (secret : String) : masked secret =
      Log.maskDsn (c.openPart database) ++ ";password=REDACTED" ++ Log.exposed secret := by
    rw [← Log.maskDsn_password_eq, ← c.dsn_password]
  have same (first second : String) :
      masked first = masked second ↔ Log.exposed first = Log.exposed second := by
    rw [shown, shown, String.append_right_inj]
  refine ⟨fun _ => Log.redact_dsn _, shown password, same password, fun other plain => ?_⟩
  rw [same, (Log.exposed_eq_empty_iff other).mpr plain, Log.exposed_eq_empty_iff]

/-- Both configurations are accepted as they are, and the log tells their passwords apart. -/
theorem password_partly_shown :
    let config (password : String) : Config := { password := some password }
    let shown (password : String) : String :=
      Log.redact "dsn" ((config password).connection.dsn "x")
    (config "hunter").checked = .ok (config "hunter") ∧
      (config "hunter;2").checked = .ok (config "hunter;2") ∧
      shown "hunter" = "pgsql:dbname=x;password=REDACTED" ∧
      shown "hunter;2" = "pgsql:dbname=x;password=REDACTED;2" :=
  ⟨eq_ok_of_toOption (by decide +kernel), eq_ok_of_toOption (by decide +kernel),
    by decide +kernel, by decide +kernel⟩

end Testbed
