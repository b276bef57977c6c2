import VkTurn.Frontend.WingsvImporter
import VkTurn.Text.OneLine

/-! # The wg-quick configuration of an identity

The daemon writes the rendered text to a file and runs wg-quick on it, so that a line more in it
is a directive more for a privileged process.
-/

namespace VkTurn.Frontend

open VkTurn.Launcher VkTurn.Text

def interfaceHeader : String := "[Interface]"
def peerHeader : String := "[Peer]"

/-- `filterIpv4Only`, before the parts are joined. -/
def ipv4Entries (text : String) : List String :=
  (entries kotlinSpace ',' text).filter fun part => ':' ∉ part.toList

def filterIpv4Only (text : String) : String := joinToString ", " (ipv4Entries text)

/-- `Key = value`. -/
def directiveLine (directive : String × String) : String :=
  directive.1 ++ " = " ++ directive.2

def interfaceDirectives (w : IdentityWg) : List (String × String) :=
  [("PrivateKey", kotlinTrim w.privateKey), ("Address", filterIpv4Only w.address),
    ("MTU", toString w.mtu.toInt)] ++
  if w.flavor = .amnezia then
    [("Jc", toString w.awgJc.toInt), ("Jmin", toString w.awgJmin.toInt),
      ("Jmax", toString w.awgJmax.toInt), ("S1", toString w.awgS1.toInt),
      ("S2", toString w.awgS2.toInt), ("H1", toString w.awgH1.toInt),
      ("H2", toString w.awgH2.toInt), ("H3", toString w.awgH3.toInt),
      ("H4", toString w.awgH4.toInt)]
  else []

def peerDirectives (w : IdentityWg) (localEndpoint : String) : List (String × String) :=
  [("PublicKey", kotlinTrim w.peerPublicKey)] ++
  (if isNotBlank w.peerPresharedKey then [("PresharedKey", kotlinTrim w.peerPresharedKey)]
    else []) ++
  [("AllowedIPs", filterIpv4Only w.allowedIps), ("Endpoint", kotlinTrim localEndpoint),
    ("PersistentKeepalive", toString w.persistentKeepalive.toInt)]

/-- What `render` appends, line by line. -/
def appendedLines (w : IdentityWg) (localEndpoint : String) : List String :=
  interfaceHeader :: (interfaceDirectives w).map directiveLine ++ "" :: peerHeader ::
    (peerDirectives w localEndpoint).map directiveLine

def render (w : IdentityWg) (localEndpoint : String) : String :=
  writeLines (appendedLines w localEndpoint)

/-- The endpoint that the supervisor renders the configuration of a route with. -/
def Imported.localEndpoint (imported : Imported) : String :=
  hostPort imported.route.listenHost imported.route.listenPort

/-! ## What the file may hold -/

def headers : List String := [interfaceHeader, peerHeader]

def interfaceKeys : List String :=
  ["PrivateKey", "Address", "MTU", "Jc", "Jmin", "Jmax", "S1", "S2", "H1", "H2", "H3", "H4"]

def peerKeys : List String :=
  ["PublicKey", "PresharedKey", "AllowedIPs", "Endpoint", "PersistentKeepalive"]

def keyOf (line : String) : String := substringBefore ' ' line

structure KeepsFormat (lines : List String) : Prop where
  known : ∀ line ∈ lines, line ∈ headers ∨ line = "" ∨
    ∃ key ∈ interfaceKeys ++ peerKeys, ∃ value, line = directiveLine (key, value)
  /-- Between two headers no key occurs twice. -/
  once : ∀ block ∈ lines.splitOnP (· ∈ headers), ((block.filter (· ≠ "")).map keyOf).Nodup

/-- The file of an imported profile keeps the format, and none of its lines comes from inside
    an imported value. -/
def ConfigIntegrity (imported : Imported) : Prop :=
  let lines := splitOn '\n' (render imported.wg imported.localEndpoint)
  KeepsFormat lines ∧ lines = appendedLines imported.wg imported.localEndpoint ++ [""]

/-- The addresses that are written and the local endpoint are one line each. -/
def OneLineValues (imported : Imported) : Prop :=
  (∀ part ∈ ipv4Entries imported.wg.address, OneLine part) ∧
    OneLine (kotlinTrim imported.localEndpoint)

/-! ## The appended lines -/

theorem interfaceDirectives_keys (w : IdentityWg) :
    ((interfaceDirectives w).map Prod.fst).Sublist interfaceKeys := by
  simp only [interfaceDirectives]
  split
  · simp [interfaceKeys]
  · simp [interfaceKeys]

theorem peerDirectives_keys (w : IdentityWg) (localEndpoint : String) :
    ((peerDirectives w localEndpoint).map Prod.fst).Sublist peerKeys := by
  simp only [peerDirectives]
  split
  · simp [peerKeys]
  · simp [peerKeys]

/-- The key of a directive can be read off its line. -/
theorem keyOf_directiveLine {key : String} (noSpace : ' ' ∉ key.toList) (value : String) :
    keyOf (directiveLine (key, value)) = key := by
  have upToSpace : (directiveLine (key, value)).toList =
      key.toList ++ ' ' :: '=' :: ' ' :: value.toList := by
    simp [directiveLine]
  rw [keyOf, substringBefore, upToSpace, List.takeWhile_append_of_pos]
  · simp
  · intro char member
    simp only [decide_not, Bool.not_eq_true', decide_eq_false_iff_not, ne_eq]
    rintro rfl
    exact noSpace member

theorem keys_noSpace : ∀ key ∈ interfaceKeys ++ peerKeys, ' ' ∉ key.toList := by decide +kernel

theorem directiveLine_not_header {key : String} (isKey : key ∈ interfaceKeys ++ peerKeys)
    (value : String) : directiveLine (key, value) ∉ headers ∧ directiveLine (key, value) ≠ "" := by
  have isKeyOf := keyOf_directiveLine (keys_noSpace key isKey) value
  have others : ∀ key ∈ interfaceKeys ++ peerKeys,
      key ∉ headers.map keyOf ∧ key ≠ keyOf "" := by decide
  constructor
  · intro isHeader
    exact (others key isKey).1 (isKeyOf ▸ List.mem_map_of_mem isHeader)
  · intro isEmpty
    exact (others key isKey).2 (by rw [← isKeyOf, isEmpty])

/-- A section's own lines repeat no key and hold no header. -/
theorem section_lines {directives : List (String × String)} {keys : List String}
    (inOrder : (directives.map Prod.fst).Sublist keys) (nodup : keys.Nodup)
    (areKeys : keys ⊆ interfaceKeys ++ peerKeys) :
    (∀ line ∈ directives.map directiveLine ++ [""], line ∉ headers) ∧
      (((directives.map directiveLine ++ [""]).filter (· ≠ "")).map keyOf).Nodup := by
  have isKey : ∀ directive ∈ directives, directive.1 ∈ interfaceKeys ++ peerKeys :=
    fun directive member => areKeys (inOrder.subset (List.mem_map_of_mem member))
  constructor
  · intro line member
    rcases List.mem_append.mp member with isLine | isEmpty
    · obtain ⟨directive, isDirective, rfl⟩ := List.mem_map.mp isLine
      exact (directiveLine_not_header (isKey directive isDirective) directive.2).1
    · cases List.mem_singleton.mp isEmpty
      decide
  · have kept : (directives.map directiveLine ++ [""]).filter (· ≠ "") =
        directives.map directiveLine := by
      rw [List.filter_append, List.filter_eq_self.mpr]
      · simp
      · intro line isLine
        obtain ⟨directive, isDirective, rfl⟩ := List.mem_map.mp isLine
        simpa using (directiveLine_not_header (isKey directive isDirective) directive.2).2
    have keysOf : (directives.map directiveLine).map keyOf = directives.map Prod.fst := by
      rw [List.map_map]
      apply List.map_congr_left
      intro directive isDirective
      exact keyOf_directiveLine (keys_noSpace _ (isKey directive isDirective)) directive.2
    rw [kept, keysOf]
    exact inOrder.nodup nodup

theorem appendedLines_keepFormat (w : IdentityWg) (localEndpoint : String) :
    KeepsFormat (appendedLines w localEndpoint ++ [""]) := by
  have interfaceSection := section_lines (interfaceDirectives_keys w) (by decide)
    (List.subset_append_left _ peerKeys)
  have peerSection := section_lines (peerDirectives_keys w localEndpoint) (by decide)
    (List.subset_append_right interfaceKeys _)
  have lines : appendedLines w localEndpoint ++ [""] =
      interfaceHeader :: ((interfaceDirectives w).map directiveLine ++ [""] ++ peerHeader ::
        ((peerDirectives w localEndpoint).map directiveLine ++ [""])) := by
    simp [appendedLines]
  have directive : ∀ directives : List (String × String), ∀ keys : List String,
      (directives.map Prod.fst).Sublist keys → keys ⊆ interfaceKeys ++ peerKeys →
      ∀ line ∈ directives.map directiveLine ++ [""],
        line ∈ headers ∨ line = "" ∨
          ∃ key ∈ interfaceKeys ++ peerKeys, ∃ value, line = directiveLine (key, value) := by
    intro directives keys inOrder areKeys line member
    rcases List.mem_append.mp member with isLine | isEmpty
    · obtain ⟨directive, isDirective, rfl⟩ := List.mem_map.mp isLine
      have isKey := areKeys (inOrder.subset (List.mem_map_of_mem isDirective))
      exact .inr (.inr ⟨directive.1, isKey, directive.2, rfl⟩)
    · exact .inr (.inl (List.mem_singleton.mp isEmpty))
  rw [lines]
  constructor
  case known =>
    intro line member
    rcases List.mem_cons.mp member with rfl | later
    · exact .inl (by decide)
    · rcases List.mem_append.mp later with inInterface | inPeer
      · exact directive _ _ (interfaceDirectives_keys w) (List.subset_append_left _ _) line
          inInterface
      · rcases List.mem_cons.mp inPeer with rfl | inPeer
        · exact .inl (by decide)
        · exact directive _ _ (peerDirectives_keys w localEndpoint)
            (List.subset_append_right _ _) line inPeer
  case once =>
    have blocks : (interfaceHeader :: ((interfaceDirectives w).map directiveLine ++ [""] ++
        peerHeader :: ((peerDirectives w localEndpoint).map directiveLine ++ [""]))).splitOnP
          (· ∈ headers) =
        [[], (interfaceDirectives w).map directiveLine ++ [""],
          (peerDirectives w localEndpoint).map directiveLine ++ [""]] := by
      have outside : ∀ lines : List String, (∀ line ∈ lines, line ∉ headers) →
          ∀ line ∈ lines, decide (line ∈ headers) = false :=
        fun lines free line member => decide_eq_false (free line member)
      rw [← List.nil_append (interfaceHeader :: _),
        List.splitOnP_append_cons_of_forall_mem (by simp) _ (by decide),
        List.splitOnP_append_cons_of_forall_mem (outside _ interfaceSection.1) _ (by decide),
        List.splitOnP_eq_singleton (outside _ peerSection.1)]
    rw [blocks]
    intro block member
    simp only [List.mem_cons, List.not_mem_nil, or_false] at member
    obtain rfl | rfl | rfl := member
    · simp
    · exact interfaceSection.2
    · exact peerSection.2

/-! ## The imported values -/

/-- The values of an identity that can hold text of the profile, other than the addresses. -/
structure OneLineKeys (w : IdentityWg) : Prop where
  privateKey : OneLine w.privateKey
  peerPublicKey : OneLine w.peerPublicKey
  peerPresharedKey : OneLine w.peerPresharedKey
  allowedIps : OneLine w.allowedIps

theorem oneLine_toHexColonsIPv6 {bytes : Bytes} :
    ∀ part ∈ toHexColonsIPv6 bytes, OneLine part := by
  fun_induction toHexColonsIPv6 bytes with
  | case1 hi lo rest inductionHypothesis =>
    intro part member
    rcases List.mem_cons.mp member with rfl | later
    · rw [OneLine, hexText, String.toList_ofList]
      exact toDigits_free (by decide) _
    · exact inductionHypothesis part later
  | case2 => simp

theorem oneLine_cidrToString (cidr : WingsvCidr) : OneLine (cidrToString cidr) := by
  have slash : OneLine "/" := by decide
  have suffix := slash.append (oneLine_int cidr.networkPrefix.toInt)
  simp only [cidrToString]
  split
  · have numbers : ∀ part ∈ cidr.addr.map fun byte => toString byte.toNat, OneLine part := by
      intro part member
      obtain ⟨byte, _, rfl⟩ := List.mem_map.mp member
      exact oneLine_nat byte.toNat
    rw [String.append_assoc]
    exact ((oneLine_joinToString (by decide)).mpr numbers).append suffix
  · split
    · rw [String.append_assoc]
      exact ((oneLine_joinToString (by decide)).mpr oneLine_toHexColonsIPv6).append suffix
    · exact oneLine_empty

theorem commaBlank_oneLine : OneLine ", " := by decide

/-- The values that stand in for missing ones. -/
theorem default_oneLine : OneLine "10.8.0.2/24" ∧ OneLine "0.0.0.0/0, ::/0" := by decide

theorem oneLine_ifBlank {text default : String} (isLine : OneLine text)
    (isDefault : OneLine default) : OneLine (ifBlank text default) := by
  rw [ifBlank]
  split
  · exact isLine
  · exact isDefault

theorem renderWireGuard_oneLine (iface : WingsvInterface) (peer : WingsvPeer) :
    OneLineKeys (renderWireGuard iface peer) where
  privateKey := oneLine_base64Encode _
  peerPublicKey := oneLine_base64Encode _
  peerPresharedKey := by
    simp only [renderWireGuard]
    split
    · exact oneLine_empty
    · exact oneLine_base64Encode _
  allowedIps := by
    have cidrs : ∀ part ∈ peer.allowedIps.map cidrToString, OneLine part := by
      intro part member
      obtain ⟨cidr, _, rfl⟩ := List.mem_map.mp member
      exact oneLine_cidrToString cidr
    simp only [renderWireGuard]
    exact oneLine_ifBlank ((oneLine_joinToString commaBlank_oneLine).mpr cidrs) default_oneLine.2

/-- The values of a wg-quick text end with their lines. -/
theorem awgProps_oneLine {body : String} : ∀ prop ∈ awgProps body, OneLine prop.2 := by
  intro prop member
  obtain ⟨lineRaw, isLine, isProp⟩ := List.mem_filterMap.mp member
  have rawFree := oneLine_of_lineSequence isLine
  have lineFree : OneLine (kotlinTrim (substringBefore '#' lineRaw)) :=
    (rawFree.substringBefore '#').trim kotlinSpace
  simp only at isProp
  split at isProp
  · cases isProp
  · split at isProp
    · cases isProp
    · rw [← Option.some.inj isProp]
      apply OneLine.trim
      apply lineFree.of_sublist
      rw [String.toList_ofList]
      exact List.drop_sublist _ _

theorem singleProp_oneLine {props : List (String × String)}
    (areLines : ∀ prop ∈ props, OneLine prop.2) (key : String) :
    OneLine (singleProp props key) := by
  rw [singleProp]
  cases found : props.find? (·.1 = key) with
  | none => exact oneLine_empty
  | some prop => exact areLines prop (List.mem_of_find?_eq_some found)

theorem parseAwgQuick_oneLine (body : String) : OneLineKeys (parseAwgQuick body) := by
  have single : ∀ key, OneLine (singleProp (awgProps body) key) :=
    singleProp_oneLine awgProps_oneLine
  rw [parseAwgQuick]
  generalize awgProps body = props at single
  constructor <;> dsimp only
  case privateKey => exact single "PrivateKey"
  case peerPublicKey => exact single "PublicKey"
  case peerPresharedKey => exact single "PresharedKey"
  case allowedIps => exact oneLine_ifBlank (single "AllowedIPs") default_oneLine.2

theorem blankIdentity_oneLine : OneLineKeys {} :=
  ⟨oneLine_empty, oneLine_empty, oneLine_empty, default_oneLine.2⟩

theorem renderIdentityWg_oneLine (wg : Option WingsvWireGuard) (awg : Option WingsvAmneziaWg) :
    OneLineKeys (renderIdentityWg wg awg).1 := by
  simp only [renderIdentityWg]
  split
  · exact renderWireGuard_oneLine _ _
  · split
    · split
      · exact parseAwgQuick_oneLine _
      · exact blankIdentity_oneLine
    · exact blankIdentity_oneLine

/-- Only `merge` makes identities, from whatever message the link holds. -/
theorem importLink_oneLine {codec : WingsvCodec} {depth : Nat} {raw : String} {imported : Imported}
    (isImport : importLink codec depth raw = .ok imported) : OneLineKeys imported.wg := by
  simp only [importLink] at isImport
  split at isImport
  · cases isImport
  · split at isImport
    · cases isImport
    · split at isImport
      · cases isImport
      · rename_i config _
        split at isImport
        · cases isImport
        · rename_i merged isMerge
          cases isImport
          simp only [merge] at isMerge
          split at isMerge
          · cases isMerge
          · split at isMerge
            · cases isMerge
            · cases isMerge
              exact renderIdentityWg_oneLine _ _

/-! ## The file -/

theorem oneLine_directive (key value : String) (isKey : key ∈ interfaceKeys ++ peerKeys) :
    OneLine (directiveLine (key, value)) ↔ OneLine value := by
  have keysFree : ∀ key ∈ interfaceKeys ++ peerKeys, OneLine (key ++ " = ") := by decide +kernel
  rw [directiveLine, oneLine_append, and_iff_right (keysFree key isKey)]

theorem oneLine_filterIpv4Only (text : String) :
    OneLine (filterIpv4Only text) ↔ ∀ part ∈ ipv4Entries text, OneLine part :=
  oneLine_joinToString commaBlank_oneLine

theorem ipv4Entries_oneLine {text : String} (isLine : OneLine text) :
    ∀ part ∈ ipv4Entries text, OneLine part := by
  intro part member
  obtain ⟨isEntry, _⟩ := List.mem_filter.mp member
  obtain ⟨inParts, _⟩ := List.mem_filter.mp isEntry
  obtain ⟨raw, isRaw, rfl⟩ := List.mem_map.mp inParts
  obtain ⟨chars, isSplit, rfl⟩ := List.mem_map.mp isRaw
  apply OneLine.trim
  rw [OneLine, String.toList_ofList]
  exact fun inPart => isLine (mem_of_mem_splitOn isSplit inPart)

theorem interfaceLines_oneLine {w : IdentityWg} (isPrivateKey : OneLine w.privateKey) :
    (∀ directive ∈ interfaceDirectives w, OneLine (directiveLine directive)) ↔
      ∀ part ∈ ipv4Entries w.address, OneLine part := by
  have own := fun key value isKey => (oneLine_directive key value isKey).mpr
  have address := oneLine_directive "Address" (filterIpv4Only w.address) (by decide)
  rw [← oneLine_filterIpv4Only, ← address]
  constructor
  · intro lines
    exact lines ("Address", _) (List.mem_append_left _ (by simp))
  · intro isAddress directive member
    -- Every other value of the section is a key or a number.
    obtain first | numbers := List.mem_append.mp member
    · simp only [List.mem_cons, List.not_mem_nil, or_false] at first
      obtain rfl | rfl | rfl := first
      · exact own _ _ (by decide) (isPrivateKey.trim kotlinSpace)
      · exact isAddress
      · exact own _ _ (by decide) (oneLine_int _)
    · split at numbers
      · simp only [List.mem_cons, List.not_mem_nil, or_false] at numbers
        obtain rfl | rfl | rfl | rfl | rfl | rfl | rfl | rfl | rfl := numbers
        all_goals exact own _ _ (by decide) (oneLine_int _)
      · cases numbers

theorem peerLines_oneLine {w : IdentityWg} (keys : OneLineKeys w) (localEndpoint : String) :
    (∀ directive ∈ peerDirectives w localEndpoint, OneLine (directiveLine directive)) ↔
      OneLine (kotlinTrim localEndpoint) := by
  have own := fun key value isKey => (oneLine_directive key value isKey).mpr
  have endpoint := oneLine_directive "Endpoint" (kotlinTrim localEndpoint) (by decide)
  rw [← endpoint]
  constructor
  · intro lines
    exact lines ("Endpoint", _) (List.mem_append_right _ (by simp))
  · intro isEndpoint directive member
    obtain peerKeys | rest := List.mem_append.mp member
    · obtain publicKey | presharedKey := List.mem_append.mp peerKeys
      · cases List.mem_singleton.mp publicKey
        exact own _ _ (by decide) (keys.peerPublicKey.trim kotlinSpace)
      · split at presharedKey
        · cases List.mem_singleton.mp presharedKey
          exact own _ _ (by decide) (keys.peerPresharedKey.trim kotlinSpace)
        · cases presharedKey
    · simp only [List.mem_cons, List.not_mem_nil, or_false] at rest
      obtain rfl | rfl | rfl := rest
      · have allowed := (oneLine_filterIpv4Only w.allowedIps).mpr
          (ipv4Entries_oneLine keys.allowedIps)
        exact own _ _ (by decide) allowed
      · exact isEndpoint
      · exact own _ _ (by decide) (oneLine_int _)

theorem appendedLines_oneLine {w : IdentityWg} (keys : OneLineKeys w) (localEndpoint : String) :
    (∀ line ∈ appendedLines w localEndpoint, OneLine line) ↔
      (∀ part ∈ ipv4Entries w.address, OneLine part) ∧ OneLine (kotlinTrim localEndpoint) := by
  have fixed : OneLine interfaceHeader ∧ OneLine "" ∧ OneLine peerHeader := by decide
  rw [← interfaceLines_oneLine keys.privateKey, ← peerLines_oneLine keys localEndpoint]
  simp only [appendedLines, List.forall_mem_cons, List.forall_mem_append, List.forall_mem_map,
    List.cons_append, fixed, true_and]

/-- The written file is the appended lines, and keeps the format, exactly for an identity whose
    addresses and local endpoint are one line each. -/
theorem configIntegrity_iff_oneLineValues (codec : WingsvCodec) (depth : Nat) (raw : String)
    (imported : Imported) (isImport : importLink codec depth raw = .ok imported) :
    ConfigIntegrity imported ↔ OneLineValues imported := by
  have keys := importLink_oneLine isImport
  rw [OneLineValues, ← appendedLines_oneLine keys, ConfigIntegrity]
  rw [render, splitOn_writeLines]
  constructor
  · intro ⟨_, areLines⟩
    exact areLines
  · intro areLines
    refine ⟨?_, areLines⟩
    rw [(splitOn_writeLines _).mpr areLines]
    exact appendedLines_keepFormat imported.wg imported.localEndpoint

/-! ## Links of one token -/

section Token

variable {codec : WingsvCodec} {token : String}

/-- The characters that nothing in the import trims or drops. -/
def isTokenChar (char : Char) : Bool :=
  ¬ kotlinSpace char ∧ ¬ isQuote char ∧ char ≠ '\n' ∧ char ≠ '\r' ∧ char ≠ ' '

theorem trim_solid {blank : Char → Bool} {text : String} (named : text ≠ "")
    (solid : ∀ char ∈ text.toList, blank char = false) : trim blank text = text := by
  have notEmpty : text.toList ≠ [] := mt String.toList_eq_nil_iff.mp named
  have isText : text.toList.dropLast ++ [text.toList.getLast notEmpty] = text.toList :=
    List.dropLast_append_getLast notEmpty
  have starts : ∀ first ∈ (text.toList.dropLast ++ [text.toList.getLast notEmpty]).head?,
      blank first = false := by
    rw [isText]
    intro first isFirst
    exact solid first (List.mem_of_head? isFirst)
  have trimmed := trimChars_eq_self starts (solid _ (List.getLast_mem notEmpty))
  rw [isText] at trimmed
  rw [trim, trimmed, String.ofList_toList]

/-- The import reads the token behind the scheme. -/
theorem normalize_token (named : token ≠ "") (plain : ∀ char ∈ token.toList, isTokenChar char = true)
    (depth : Nat) : normalize codec (depth + 1) ("wingsv://" ++ token) = some token := by
  have chars : ("wingsv://" ++ token).toList = "wingsv://".toList ++ token.toList :=
    String.toList_append
  have filled : "wingsv://" ++ token ≠ "" := by
    simp [← String.toList_inj]
  have plainLink : ∀ char ∈ ("wingsv://" ++ token).toList,
      kotlinSpace char = false ∧ isQuote char = false := by
    have scheme : "wingsv://".toList.all (fun char => !kotlinSpace char && !isQuote char) := by
      decide
    rw [chars]
    intro char member
    rcases List.mem_append.mp member with inScheme | inToken
    · simpa using List.all_eq_true.mp scheme char inScheme
    · have isPlain := plain char inToken
      simp only [isTokenChar, decide_eq_true_eq, Bool.not_eq_true] at isPlain
      exact ⟨isPlain.1, isPlain.2.1⟩
  have notBlank : isNotBlank token = true := by
    unfold isNotBlank kotlinTrim
    rw [trim_solid named fun char inToken => (plainLink char (by simp [chars, inToken])).1]
    simpa using named
  have http : startsIgnoringCase ("wingsv://" ++ token) "http://" = false := by
    simp [startsIgnoringCase, ignoringCase, List.isPrefixOf]
  have https : startsIgnoringCase ("wingsv://" ++ token) "https://" = false := by
    simp [startsIgnoringCase, ignoringCase, List.isPrefixOf]
  have body : removePrefix "wingsv://" ("wingsv://" ++ token) = token := by
    rw [removePrefix, chars, if_pos (List.isPrefixOf_iff_prefix.mpr (List.prefix_append _ _)),
      List.drop_left, String.ofList_toList]
  unfold normalize kotlinTrim
  rw [trim_solid filled fun char member => (plainLink char member).1,
    trim_solid filled fun char member => (plainLink char member).2]
  simp only [filled, http, https, body, notBlank, reduceIte, Bool.false_eq_true, or_self]

end Token

/-! ## Two links -/

/-- The libraries on one link. -/
def oneLinkCodec (token : String) (deflated proto : Bytes) (config : WingsvConfig) :
    WingsvCodec where
  fetchSubscription _ := none
  base64UrlDecode text := if text = token then some (frameProtoDeflate :: deflated) else none
  inflateZlib bytes := if bytes = deflated then some proto else none
  decodeProto bytes := if bytes = proto then some config else none

/-- The import of the link that the libraries are on. -/
theorem importLink_oneLink {token : String} {deflated proto : Bytes} {config : WingsvConfig}
    {imported : Imported} (named : token ≠ "") (plain : token.toList.all isTokenChar = true)
    (merged : merge config = .ok imported) (depth : Nat) :
    importLink (oneLinkCodec token deflated proto config) (depth + 1) ("wingsv://" ++ token) =
      .ok imported := by
  have plain := List.all_eq_true.mp plain
  have cleaned : token.toList.filter (fun char => char ≠ '\n' ∧ char ≠ '\r' ∧ char ≠ ' ') =
      token.toList := by
    refine List.filter_eq_self.mpr fun char member => ?_
    have isPlain := plain char member
    simp only [isTokenChar, decide_eq_true_eq] at isPlain
    exact decide_eq_true isPlain.2.2
  have decoded : (oneLinkCodec token deflated proto config).base64UrlDecode token =
      some (frameProtoDeflate :: deflated) := if_pos rfl
  have inflated : (oneLinkCodec token deflated proto config).inflateZlib deflated = some proto :=
    if_pos rfl
  have parsed : (oneLinkCodec token deflated proto config).decodeProto proto = some config :=
    if_pos rfl
  have bytes : decodeToken (oneLinkCodec token deflated proto config) token = some proto := by
    unfold decodeToken
    dsimp only
    rw [cleaned, String.ofList_toList, decoded]
    exact inflated
  unfold importLink
  rw [normalize_token named plain]
  simp only [bytes, parsed, merged]

/-- A profile that names only the server and one address of the interface. -/
def addressProfile (address : String) : WingsvConfig :=
  { turn := some { endpoint := some { host := "a.example" } }
    wg := some { iface := some { addrs := [address] }, peer := some {} } }

def plainToken : String := "Enjak-Ll4ubiTNRLrUjMLchJVRLk4hXiNjTQA0EjfWMjIQYAdCoGVQ=="

def plainCodec : WingsvCodec :=
  oneLinkCodec plainToken
    [120, 218, 147, 226, 229, 226, 230, 226, 76, 212, 75, 173, 72, 204, 45, 200, 73, 85, 18, 228,
      226, 21, 226, 54, 52, 208, 3, 65, 35, 125, 99, 35, 33, 6, 0, 116, 42, 6, 85]
    [26, 13, 10, 11, 10, 9, 97, 46, 101, 120, 97, 109, 112, 108, 101, 34, 17, 10, 13, 18, 11, 49,
      48, 46, 48, 46, 48, 46, 50, 47, 51, 50, 18, 0]
    (addressProfile "10.0.0.2/32")

def plainImported : Imported :=
  { server := { host := "a.example", proxyPort := 56000 }
    wg := { privateKey := "", address := "10.0.0.2/32", dns := "" }
    route := importedRoute { endpoint := some { host := "a.example" } }
    notes := [] }

theorem configIntegrity_iff_oneLineValues_plain :
    ConfigIntegrity plainImported ↔ OneLineValues plainImported :=
  configIntegrity_iff_oneLineValues plainCodec 1 ("wingsv://" ++ plainToken) plainImported
    (importLink_oneLink (by decide) (by decide +kernel) (by decide +kernel) 0)

def hookToken : String := "Enjak-Ll4ubiTNRLrUjMLchJVZLlkhQSNzTQA0EjfWMjroD84pLQAgVbhcwUIQYA4sIKOA=="

def hookCodec : WingsvCodec :=
  oneLinkCodec hookToken
    [120, 218, 147, 226, 229, 226, 230, 226, 76, 212, 75, 173, 72, 204, 45, 200, 73, 85, 146, 229,
      146, 20, 18, 55, 52, 208, 3, 65, 35, 125, 99, 35, 174, 128, 252, 226, 146, 208, 2, 5, 91, 133,
      204, 20, 33, 6, 0, 226, 194, 10, 56]
    [26, 13, 10, 11, 10, 9, 97, 46, 101, 120, 97, 109, 112, 108, 101, 34, 29, 10, 25, 18, 23, 49,
      48, 46, 48, 46, 48, 46, 50, 47, 51, 50, 10, 80, 111, 115, 116, 85, 112, 32, 61, 32, 105, 100,
      18, 0]
    (addressProfile "10.0.0.2/32\nPostUp = id")

def hookImported : Imported :=
  { plainImported with
    wg := { privateKey := "", address := "10.0.0.2/32\nPostUp = id", dns := "" } }

theorem hook_not_format : ¬ ∃ key ∈ interfaceKeys ++ peerKeys, ∃ value,
    "PostUp = id" = directiveLine (key, value) := by
  rintro ⟨key, isKey, value, isLine⟩
  have unknown : keyOf "PostUp = id" ∉ interfaceKeys ++ peerKeys := by decide
  rw [isLine, keyOf_directiveLine (keys_noSpace key isKey)] at unknown
  exact unknown isKey

/-- An address with a line feed brings a hook of wg-quick into the file. -/
theorem imported_address_adds_hook :
    importLink hookCodec 1 ("wingsv://" ++ hookToken) = .ok hookImported ∧
      "PostUp = id" ∈ splitOn '\n' (render hookImported.wg hookImported.localEndpoint) ∧
      ¬ KeepsFormat (splitOn '\n' (render hookImported.wg hookImported.localEndpoint)) := by
  have isLine : "PostUp = id" ∈
      splitOn '\n' (render hookImported.wg hookImported.localEndpoint) := by
    have isDirective : ("Address", filterIpv4Only hookImported.wg.address) ∈
        interfaceDirectives hookImported.wg := by simp [interfaceDirectives]
    have isAppended : directiveLine _ ∈ (interfaceDirectives hookImported.wg).map directiveLine :=
      List.mem_map_of_mem isDirective
    rw [render, splitOn_writeLines_eq]
    refine List.mem_append_left _ (List.mem_flatMap_of_mem
      (List.mem_append_left _ (List.mem_cons_of_mem _ isAppended)) ?_)
    decide +kernel
  have isImport : importLink hookCodec 1 ("wingsv://" ++ hookToken) = .ok hookImported :=
    importLink_oneLink (by decide) (by decide +kernel) (by decide +kernel) 0
  refine ⟨isImport, isLine, fun format => ?_⟩
  obtain isHeader | isEmpty | isDirective := format.known _ isLine
  · exact absurd isHeader (by decide)
  · exact absurd isEmpty (by decide)
  · exact hook_not_format isDirective

end VkTurn.Frontend
