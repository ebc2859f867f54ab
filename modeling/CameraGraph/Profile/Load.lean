import CameraGraph.Log
import CameraGraph.Profile
import CameraGraph.Profile.EnvFile

/-!
# CameraGraph.Profile.Load

Device profiles from a directory.

The directory holds one file for each device that may have a profile. A device without a file has no
profile, and neither has one whose file is refused: nothing of such a file is kept, and a warning
says why.
-/

namespace CameraGraph.Profiles

/-- The devices that may have a profile, with the names of their files. -/
def deviceFiles : List (String × String) :=
  [("CPU", "all-cpu.env"), ("NPU", "all-npu.env"), ("GPU", "all-gpu.env")]

/-- The profile in a file. -/
def readTuning (disk : Disk) (env : Environment) (path : Path) : Except EnvFile.Error Tuning := do
  match disk.read path with
  | .ok bytes => return ⟨← EnvFile.parse env bytes⟩
  | .error cause => throw (.unreadable cause)

/-- Adds the profile of a device, if it has a good one. -/
def loadDevice (disk : Disk) (env : Environment) (dir : Path) (p : Profiles)
    (entry : String × String) : Profiles × Log :=
  let (device, file) := entry
  let path := dir.join file
  if !disk.has path then
    (p, [.detail .device ("no device profile for " ++ device ++ " at " ++ path)])
  else match readTuning disk env path with
    | .ok tuning => (p.add device tuning, [])
    | .error e => (p, [.warning ("ignoring device profile " ++ path ++ ": " ++ e.message)])

/-- The profiles in a directory. -/
def load (disk : Disk) (env : Environment) (dir : Path) : Profiles × Log :=
  deviceFiles.foldl (fun acc entry =>
    let (p, log) := loadDevice disk env dir acc.1 entry
    (p, acc.2 ++ log)) ({}, [])

end CameraGraph.Profiles
