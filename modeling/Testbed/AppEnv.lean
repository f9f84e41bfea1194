import Testbed.Dictionary

/-!
# The application's variables

The variables by which the application's scripts find their database. Flat nodes are not
stored, the full import style is used, and the extension with the Tiger data is on.
-/

namespace Testbed.AppEnv

def dsnName : String := "NOMINATIM_DATABASE_DSN"
def flatNodeName : String := "NOMINATIM_FLATNODE_FILE"
def importStyleName : String := "NOMINATIM_IMPORT_STYLE"
def tigerDataName : String := "NOMINATIM_USE_US_TIGER_DATA"
def modulePathName : String := "NOMINATIM_DATABASE_MODULE_PATH"

def environment (dsn : String) (modulePath : Option String) : Dictionary :=
  let base := Dictionary.ofPairs
    [(dsnName, dsn), (flatNodeName, ""), (importStyleName, "full"), (tigerDataName, "yes")]
  match modulePath with
  | some path => base.put modulePathName path
  | none => base

end Testbed.AppEnv
