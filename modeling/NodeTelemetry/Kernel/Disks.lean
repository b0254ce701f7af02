/-
# Block device counters and filesystems

The kernel's table of block devices has a line of blank-separated fields for each
device. The totals sum the reads and writes of all devices but loop devices and memory
disks; lines with fewer than ten fields say nothing, and a field that is no number
counts as zero. Sectors have 512 bytes whatever the device. Totals stop at the largest
64-bit word.
-/

import NodeTelemetry.Number.Literal
import NodeTelemetry.Snapshot.Node

namespace NodeTelemetry.Kernel

/-- Bytes in a sector. -/
def sectorBytes : Nat := 512

/-- A 64-bit word, or the largest one. -/
def saturate (n : Nat) : UInt64 := UInt64.ofNat (min n Literal.mostUInt64)

/-- Sum that stops at the largest word. -/
def saturatingAdd (x y : UInt64) : UInt64 := saturate (x.toNat + y.toNat)

/-- Product that stops at the largest word. -/
def saturatingMul (x : UInt64) (factor : Nat) : UInt64 := saturate (x.toNat * factor)

/-- A field as a number; zero if it is missing or no number. -/
def counterField (fields : List (List Char)) (position : Nat) : UInt64 :=
  match Literal.readWhole Literal.mostUInt64 (fields.getD position []) with
  | .ok n => UInt64.ofNat n
  | .error _ => 0

/-- Least number of fields of a line that counts. -/
def leastFields : Nat := 10

/-- Devices without a disk behind them. -/
def isVirtualDevice (name : List Char) : Bool :=
  Text.startsWith "loop".toList name || Text.startsWith "ram".toList name

/-- Does a line count? -/
def countsTowardsTotals (fields : List (List Char)) : Bool :=
  leastFields ≤ fields.length && !isVirtualDevice (fields.getD 2 [])

/-- Add one line to the totals. -/
def addDiskLine (totals : DiskTotals) (line : List Char) : DiskTotals :=
  let fields := Text.words line
  if countsTowardsTotals fields then
    { readOps := saturatingAdd totals.readOps (counterField fields 3)
      readBytes := saturatingAdd totals.readBytes
        (saturatingMul (counterField fields 5) sectorBytes)
      writeOps := saturatingAdd totals.writeOps (counterField fields 7)
      writeBytes := saturatingAdd totals.writeBytes
        (saturatingMul (counterField fields 9) sectorBytes) }
  else totals

/-- Totals over the whole table. -/
def readDiskTotals (text : List Char) : DiskTotals :=
  (Text.lines text).foldl addDiskLine {}

/-- Filesystems that are kept on a disk or on a server, not in memory or in layers. -/
def realFilesystems : List String :=
  ["ext4", "ext3", "ext2", "xfs", "btrfs", "zfs", "f2fs", "nilfs2", "ntfs", "exfat", "fat32",
    "vfat", "fat", "refs", "apfs", "hfs", "hfs+", "ufs", "ffs", "hammer", "hammer2", "ufs2",
    "nfs", "nfs4", "cifs", "smbfs", "glusterfs", "ceph", "lustre", "ocfs2", "gfs2"]

/-- Is this the type of a real filesystem, in any case of ASCII letters? -/
def isRealFilesystem (type : String) : Bool :=
  realFilesystems.any fun known => Text.sameIgnoringAsciiCase known.toList type.toList

end NodeTelemetry.Kernel
