/-
# Processor capture

The capabilities of a host from its raw views: the text of its processor file and the
word of its hardware capabilities.  Curated tables name the features; an identity is
named by a token of its fields.
-/

import Reproit.Core.Model.Processor
import Reproit.Data.Sorted

namespace Reproit

def processorFeatureLead : String := "processor.feature."
def processorOsStateLead : String := "processor.os-state."
def processorIdentityLead : String := "processor.identity."

/-- The feature group of a flag. -/
def x86FlagGroups : List (String × String) :=
  [("aes", "AES"), ("avx", "AVX"), ("avx2", "AVX2"), ("avx512bw", "AVX512BW"),
    ("avx512dq", "AVX512DQ"), ("avx512f", "AVX512F"), ("avx512vl", "AVX512VL"), ("bmi1", "BMI1"),
    ("bmi2", "BMI2"), ("fma", "FMA"), ("pclmulqdq", "PCLMULQDQ"), ("pni", "SSE3"),
    ("sse2", "SSE2"), ("sse4_1", "SSE4_1"), ("sse4_2", "SSE4_2"), ("ssse3", "SSSE3")]

/-- The feature group of a hardware capability bit. -/
def arm64HwcapGroups : List (UInt64 × String) :=
  [(1, "ASIMD"), (3, "AES"), (6, "SHA2"), (7, "CRC32"), (22, "SVE")]

def processorCaptureAbi : ProcessorArchitecture → String
  | .arm64 => "aapcs64-linux-gnu"
  | .x86_64 => "sysv-x86-64"

/-! ## Identity tokens -/

/-- The fields of one identity are joined by points. -/
def encodeIdentityToken : ProcessorIdentity → String
  | .arm arm => ".".intercalate ["arm", arm.implementer, arm.variant, arm.part, arm.revision]
  | .x86 x86 => ".".intercalate ["x86", x86.vendor, toString x86.family, toString x86.model,
      toString x86.stepping, x86.microcode]

def validIdentityChar (c : Char) : Bool := c.isLower || c.isDigit || c = '-'

def validIdentityValue (value : String) : Bool :=
  !value.isEmpty && value.utf8ByteSize ≤ 64 && value.toList.all validIdentityChar

/-- Read an identity from its token. -/
def decodeIdentityToken (token : String) : Option ProcessorIdentity :=
  match (token.toList.splitOn '.').map String.ofList with
  | [kind, vendor, family, model, stepping, microcode] =>
      if kind ≠ "x86" then none
      else do
        let identity : X86ProcessorIdentity := {
          family := ← parseUInt32 family.toList
          microcode
          model := ← parseUInt32 model.toList
          stepping := ← parseUInt32 stepping.toList
          vendor }
        if validIdentityValue identity.vendor ∧ validIdentityValue identity.microcode then
          some (.x86 identity)
        else none
  | [kind, implementer, variant, part, revision] =>
      if kind ≠ "arm" then none
      else if validIdentityValue implementer ∧ validIdentityValue part ∧
          validIdentityValue revision ∧ validIdentityValue variant then
        some (.arm { implementer, part, revision, variant })
      else none
  | _ => none

/-! ## The processor file -/

def x86Flags (cpuinfo : List Char) : List (List Char) :=
  ((lines cpuinfo).filterMap fun line =>
    match splitOnce ':' line with
    | some (name, value) => if trim name = "flags".toList then some value else none
    | none => none).flatMap splitWhitespace

/-- The value of a field in a block. -/
def blockField (field : String) (block : List Char) : Option (List Char) :=
  (lines block).findSome? fun line =>
    match splitOnce ':' line with
    | some (name, value) => if trim name = field.toList then some (trim value) else none
    | none => none

/-- The fields of every processor; each of them has a value. -/
def identityBlocks (cpuinfo : List Char) (fieldNames : List String) :
    Option (List (List (List Char))) := do
  let found ← ((blocks cpuinfo).filter fun block => trim block ≠ []).mapM fun block =>
    fieldNames.mapM fun field => (blockField field block).filter (· ≠ [])
  if found = [] then none else some found

def identityFieldNames : ProcessorArchitecture → List String
  | .x86_64 => ["vendor_id", "cpu family", "model", "stepping", "microcode"]
  | .arm64 => ["CPU implementer", "CPU variant", "CPU part", "CPU revision"]

/-- The lowercase fields that all processors agree on. -/
def identityValues (architecture : ProcessorArchitecture) (cpuinfo : List Char) :
    Option (List String) := do
  let found ← identityBlocks cpuinfo (identityFieldNames architecture)
  let first ← found.head?
  if found.any (· ≠ first) then none
  else
    let values := first.map fun value => value.map Char.toLower
    if values.all (·.all validIdentityChar) then some (values.map String.ofList) else none

def identityToken (architecture : ProcessorArchitecture) (cpuinfo : List Char) :
    Option String := do
  let values ← identityValues architecture cpuinfo
  match architecture with
  | .x86_64 =>
      if ((values.drop 1).take 3).all fun numeric => (parseUInt32 numeric.toList).isSome then
        some (".".intercalate ("x86" :: values))
      else none
  | .arm64 => some (".".intercalate ("arm" :: values))

/-! ## Capture -/

/-- The suffix of a feature group. -/
def capabilitySuffix (group : String) : String :=
  String.ofList (group.toList.map fun c => if c.isUpper then c.toLower else if c = '_' then '-' else c)

structure ProcessorCapture where
  architecture : ProcessorArchitecture
  capabilities : List String

/-- The capabilities that the tables and the states of one architecture give. -/
def discreteCapabilities (architecture : ProcessorArchitecture) (cpuinfo : List Char)
    (hwcap : Option UInt64) : List String :=
  let feature (group : String) := processorFeatureLead ++ capabilitySuffix group
  let state (name : String) := processorOsStateLead ++ name
  match architecture with
  | .x86_64 =>
      let flags := x86Flags cpuinfo
      let present (flag : String) : Bool := flags.contains flag.toList
      (x86FlagGroups.filter fun (flag, _) => present flag).map (fun (_, group) => feature group) ++
        (if present "osxsave" then [state "osxsave"] else []) ++
        (if present "avx" then [state "xcr0.avx"] else []) ++
        if present "avx512f" then [state "xcr0.avx512"] else []
  | .arm64 =>
      match hwcap with
      | some hwcap =>
          (arm64HwcapGroups.filter fun (bit, _) => hwcap &&& (1 <<< bit) ≠ 0).map
            (fun (_, group) => feature group) ++ [state "auxv.hwcaps"]
      | none => []

def captureProcessorCapabilities (architecture : ProcessorArchitecture) (cpuinfo : String)
    (hwcap : Option UInt64) : ProcessorCapture where
  architecture := architecture
  capabilities := sortDedup (discreteCapabilities architecture cpuinfo.toList hwcap ++
    ((identityToken architecture cpuinfo.toList).map (processorIdentityLead ++ ·)).toList)

def osEnabledStates : List String := ["auxv.hwcaps", "osxsave", "xcr0.avx", "xcr0.avx512"]

/-- A curated feature, a curated state or a well-formed identity token. -/
def validCapturedProcessorCapability (value : String) : Bool :=
  match stripStart value processorFeatureLead with
  | some suffix => ((x86FlagGroups.map Prod.snd) ++ arm64HwcapGroups.map Prod.snd).any
      fun group => capabilitySuffix group = suffix
  | none =>
      match stripStart value processorOsStateLead with
      | some state => osEnabledStates.contains state
      | none =>
          match stripStart value processorIdentityLead with
          | some token => (decodeIdentityToken token).isSome
          | none => false

end Reproit
