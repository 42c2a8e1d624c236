/-
**Runs over what is there.**

A `World` is a volume with the repositories on it.  Its host searches the volume, reads its files and
opens the repositories.

* `run` is the result of a run over a world, `runLog` what is told along the way.
-/

import Marginalia.Git.Revision
import Marginalia.Scan.Run
import Marginalia.Scan.Walk

namespace Marginalia.Scan

/-- What a run can see. -/
structure World where
  volume : Disk.Volume
  /-- The objects of the repositories that are there. -/
  stores : List Git.Store := []

namespace World

/-- Searches directories of the volume. -/
def search (world : World) (options : WalkOptions) : Searched :=
  match walk world.volume options with
  | .ok found => { found }
  | .error cause => { found := [], ended := .error (.walk cause) }

/-- Opens a repository at a revision. -/
def checkout (world : World) (target : GitTarget) :
    Except Git.Fault (Checkout Git.Commit (List Git.TreeFile)) := do
  let repository ← Git.Repository.open? world.volume world.stores target.gitDir
  let place ← repository.commitOf world.volume target.target
  let commit ← repository.store.commitAt place
  return { path := repository.path, reader := repository.store.reader, commit }

/-- The world as a host. -/
def host (world : World) : Host Git.Commit (List Git.TreeFile) where
  search := world.search
  read := world.volume.read
  checkout := world.checkout

end World

/-- The result of a run. -/
def run (world : World) (config : Config) : Except Fault RunResult :=
  world.host.run config

/-- What is told along the way, and at the end of a run that succeeds and takes `elapsed`
milliseconds. -/
def runLog (world : World) (config : Config) (elapsed : Nat) : List LogLine :=
  world.host.runLog config elapsed

end Marginalia.Scan
