import WireguardPanel.Ipv4
import WireguardPanel.RouterOs
import Mathlib.Data.List.Sort

/-!
# Bandwidth policies and Simple Queues

The Simple Queue that enforces the bandwidth policy of a peer, the normal form
in which queues are compared, and the queues of a router that concern an
address.
-/

namespace WireguardPanel

open Foundation

/-- Where an effective policy comes from. -/
inductive BandwidthSource
  | peer
  | profile
  | router
  | global
  | unlimited
  deriving DecidableEq

/-- The limits that apply to a peer. -/
structure EffectiveBandwidthPolicy where
  source : BandwidthSource
  sourceName : String
  downloadBps : Option ℕ
  uploadBps : Option ℕ
  burstDownloadBps : Option ℕ := none
  burstUploadBps : Option ℕ := none
  burstThresholdDownloadBps : Option ℕ := none
  burstThresholdUploadBps : Option ℕ := none
  burstTimeSeconds : Option ℕ := none
  deriving DecidableEq

/-- The peer that a queue is made for. -/
structure QueuePeer where
  id : String
  name : String
  clientIp : String

/-- `unlimitedPolicy`. -/
def unlimitedPolicy (sourceName : String) : EffectiveBandwidthPolicy where
  source := .unlimited
  sourceName := sourceName
  downloadBps := none
  uploadBps := none

/-- A value that is present and not zero. -/
def truthy : Option ℕ → Bool
  | some n => n ≠ 0
  | none => false

/-- `queueOwnershipComment`. -/
def queueOwnershipComment (peerId : String) : String := "wireguard-control:peer:" ++ peerId

/-- Each run of characters other than lower-case letters and digits becomes one hyphen. -/
def hyphenate : List Char → List Char
  | [] => []
  | [c] => if c.isLower ∨ c.isDigit then [c] else ['-']
  | c :: d :: cs =>
    if c.isLower ∨ c.isDigit then c :: hyphenate (d :: cs)
    else if d.isLower ∨ d.isDigit then '-' :: hyphenate (d :: cs)
    else hyphenate (d :: cs)

/-- A text without a hyphen at its start and one at its end. -/
def stripHyphens (cs : List Char) : List Char :=
  let head := if cs.head? = some '-' then cs.tail else cs
  if head.getLast? = some '-' then head.dropLast else head

/-- `toLowerCase` of a character, as far as letters of ASCII come of it: besides
    those of ASCII there are the dotted capital I, which becomes an `i` and a
    dot, and the Kelvin sign. -/
def lowerCase (c : Char) : List Char :=
  if c.toNat = 0x130 then ['i', Char.ofNat 0x307]
  else if c.toNat = 0x212A then ['k']
  else [c.toLower]

/-- `queueName`. -/
def queueName (peerId peerName : String) : String :=
  let safeName := (stripHyphens (hyphenate (peerName.toList.flatMap lowerCase))).take 30
  "wgc-" ++ String.ofList (peerId.toList.take 8) ++
    (if safeName = [] then "" else "-" ++ String.ofList safeName)

/-- `rosRate`. -/
def rosRate (value : Option ℕ) : String := toString (value.getD 0)

/-- `desiredSimpleQueue`: no queue without a limit for both directions. -/
def desiredSimpleQueue (peer : QueuePeer) (policy : EffectiveBandwidthPolicy) :
    Option DesiredSimpleQueue :=
  if ¬truthy policy.downloadBps ∨ ¬truthy policy.uploadBps then none
  else
    let burstConfigured := truthy policy.burstDownloadBps && truthy policy.burstUploadBps &&
      truthy policy.burstTimeSeconds
    some {
      name := queueName peer.id peer.name
      target := peer.clientIp ++ "/32"
      -- RouterOS writes upload/download, the application download/upload
      maxLimit := rosRate policy.uploadBps ++ "/" ++ rosRate policy.downloadBps
      burstLimit := if burstConfigured then
        rosRate policy.burstUploadBps ++ "/" ++ rosRate policy.burstDownloadBps else "0/0"
      burstThreshold := if burstConfigured then
        rosRate (policy.burstThresholdUploadBps.or policy.uploadBps) ++ "/" ++
          rosRate (policy.burstThresholdDownloadBps.or policy.downloadBps) else "0/0"
      burstTime := if burstConfigured then
        toString (policy.burstTimeSeconds.getD 0) ++ "s/" ++
          toString (policy.burstTimeSeconds.getD 0) ++ "s" else "0s/0s"
      disabled := false
      comment := queueOwnershipComment peer.id }

/-- The UTF-16 code units of a text, which is how texts are sorted. -/
def utf16 (s : String) : List ℕ :=
  s.toList.flatMap fun c =>
    if c.toNat < 0x10000 then [c.toNat]
    else [0xD800 + (c.toNat - 0x10000) / 0x400, 0xDC00 + (c.toNat - 0x10000) % 0x400]

/-- The parts of a target list. -/
def targetParts (value : String) : List String :=
  ((value.toList.splitOnP fun c => c = ';' ∨ c = ',').map fun part =>
    Text.trim (String.ofList part)).filter (· ≠ "")

/-- `normalizeQueueTarget`. -/
def normalizeQueueTarget (value : String) : String :=
  Text.join "," ((targetParts value).insertionSort fun a b => utf16 a ≤ utf16 b)

/-- The factor of a rate suffix. -/
def rateFactor : Char → Option ℕ
  | 'k' => some 1000
  | 'm' => some 1000000
  | 'g' => some 1000000000
  | 't' => some 1000000000000
  | _ => none

/-- The digits and the factor of a rate such as `10M` or `1.5k`. -/
def parseRateText (raw : List Char) : Option (String × ℕ) :=
  let (number, factor) :=
    match raw.getLast?.bind rateFactor with
    | some factor => (raw.dropLast, factor)
    | none => (raw, 1)
  match number.splitOn '.' with
  | [whole] => if whole ≠ [] ∧ whole.all Char.isDigit then some (String.ofList number, factor)
      else none
  | [whole, fraction] =>
      if whole ≠ [] ∧ whole.all Char.isDigit ∧ fraction ≠ [] ∧ fraction.all Char.isDigit then
        some (String.ofList number, factor)
      else none
  | _ => none

/-- The two halves of a value `upload/download`. -/
def splitPair (missing value : String) : String × String :=
  match Text.split '/' (Text.trim value) with
  | upload :: download :: _ => (upload, download)
  | [upload] => (upload, missing)
  | [] => (missing, missing)

/-- `value.trim().toLowerCase()`, of a text of ASCII. -/
def lowered (value : String) : String := (Text.trim value).map Char.toLower

section Platform

variable (P : Platform)

/-- `normalizeRosRate`. -/
def normalizeRosRate (value : String) : String :=
  match parseRateText (lowered value).toList with
  | some (number, factor) => P.scaledText number factor
  | none => lowered value

/-- `normalizeRatePair`. -/
def normalizeRatePair (value : String) : String :=
  let (upload, download) := splitPair "0" value
  normalizeRosRate P upload ++ "/" ++ normalizeRosRate P download

/-- `normalizeTimePair`. -/
def normalizeTimePair (value : String) : String :=
  let (upload, download) := splitPair "0s" value
  lowered upload ++ "/" ++ lowered download

/-- `simpleQueueState`. -/
def simpleQueueState (queue : DesiredSimpleQueue) : Json :=
  .obj [("name", .str (Text.trim queue.name)), ("target", .str (normalizeQueueTarget queue.target)),
    ("maxLimit", .str (normalizeRatePair P queue.maxLimit)),
    ("burstLimit", .str (normalizeRatePair P queue.burstLimit)),
    ("burstThreshold", .str (normalizeRatePair P queue.burstThreshold)),
    ("burstTime", .str (normalizeTimePair queue.burstTime)), ("disabled", .bool queue.disabled),
    ("comment", .str (Text.trim queue.comment))]

/-- The attributes of a queue that `simpleQueueState` reads. -/
def attributes (queue : RemoteSimpleQueue) : DesiredSimpleQueue where
  name := queue.name
  target := queue.target
  maxLimit := queue.maxLimit
  burstLimit := queue.burstLimit
  burstThreshold := queue.burstThreshold
  burstTime := queue.burstTime
  disabled := queue.disabled
  comment := queue.comment

/-- `simpleQueueFingerprint`. -/
def simpleQueueFingerprint (queue : DesiredSimpleQueue) : String :=
  P.sha256 (simpleQueueState P queue).stringify

/-- `queueMatchesDesired`. -/
def queueMatchesDesired (queue : RemoteSimpleQueue) (desired : DesiredSimpleQueue) : Bool :=
  decide (simpleQueueFingerprint P (attributes queue) = simpleQueueFingerprint P desired)

end Platform

/-- `queueTargetsIp`. The address test does not throw, so there is nothing to catch. -/
def queueTargetsIp (queue : RemoteSimpleQueue) (ip : String) : Bool :=
  (targetParts queue.target).any fun target =>
    allowedAddressOwnsIp (((Text.split ' ' target).head?).getD "") ip

/-- `conflictSummary`. -/
def conflictSummary (queue : RemoteSimpleQueue) : ConflictSummary where
  id := queue.id
  name := queue.name
  target := queue.target
  comment := queue.comment

/-- The value of an attribute of a record. -/
def recordField (record : RemoteRecord) (key : String) : Option String := record.lookup key

/-- `recordDisabled`. -/
def recordDisabled (record : RemoteRecord) : Bool :=
  decide (((recordField record "disabled").getD "").map Char.toLower ∈ ["yes", "true", "1"])

/-- `recordTargetsIp`. -/
def recordTargetsIp (value : Option String) (ip : String) : Bool :=
  match value with
  | none => false
  | some value =>
    if value = "" ∨ value.toList.head? = some '!' then false else allowedAddressOwnsIp value ip

/-- `enabledFastTrackRules`. -/
def enabledFastTrackRules (rules : List RemoteRecord) : List ConflictSummary :=
  (rules.filter fun rule => ¬recordDisabled rule ∧
    ((recordField rule "action").getD "").map Char.toLower = "fasttrack-connection").map fun rule =>
      { id := (recordField rule ".id").getD ""
        name := "FastTrack filter rule"
        target := (recordField rule "chain").getD "forward"
        comment := (recordField rule "comment").getD "Enabled FastTrack may bypass Simple Queues" }

/-- `advancedShapingConflicts`. -/
def advancedShapingConflicts (peerIp : String) (trees mangleRules : List RemoteRecord) :
    List ConflictSummary :=
  let relevant := mangleRules.filter fun rule => ¬recordDisabled rule ∧
    (recordTargetsIp (recordField rule "src-address") peerIp ∨
      recordTargetsIp (recordField rule "dst-address") peerIp)
  let packetMarks := (relevant.filterMap (recordField · "new-packet-mark")).filter (· ≠ "")
  (trees.filter fun tree => ¬recordDisabled tree ∧
    ((recordField tree "packet-mark").any fun mark => mark ∈ packetMarks)).map fun tree =>
      { id := (recordField tree ".id").getD ""
        name := (recordField tree "name").getD "Queue tree"
        target := peerIp
        comment := (recordField tree "comment").getD
          ("Uses packet mark " ++ (recordField tree "packet-mark").getD "") }

end WireguardPanel
