import NomadCsi.Local.Ids
import NomadCsi.Local.Sizing

/-!
# The capacity a create reports

CreateVolume reports the size it asked for, but a copy keeps the size of its source if that is
the larger one. The size itself is right unless the rounding overflowed.
-/

namespace NomadCsi.Local

open Lib Lib.Go Driver Zfs

section

variable {cr : CapacityRange} {s : String} {block size : Int}

end

end NomadCsi.Local
