import Entitlement.Crypto.Sha2
import Entitlement.License.Error

/-!
# Locks

Programs that change the same file agree on a lock: a file in a folder of locks whose name
is made of a hash of the path of the file that it protects.
-/

namespace Entitlement.Lock

/-- The name of the lock file for a name. -/
def fileName (name : String) : String :=
  Bytes.hex ((Sha256.hash (Bytes.ofText name)).take 16) ++ ".lock"

/-- The lock file for a name in a folder of locks, which may be unusable. -/
def acquire (folderUsable : Bool) (name : String) : Except LicenseError String :=
  if folderUsable then .ok (fileName name) else .error .lock

end Entitlement.Lock
