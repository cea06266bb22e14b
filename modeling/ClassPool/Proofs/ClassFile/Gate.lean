/-
The gate in front of the pool. Parsing makes three checks, in this order: that there are enough
bytes for a header, that they start with the magic bytes, and that their version is accepted.
Only then is the pool decoded. The first check that fails decides the error (`Rejected`), and
nothing else is asked of a class file (`Accepted`). Both are said in terms of the bytes at their
offsets, so the reading of headers is first brought to that form (`Header.read?_of_le`); that
parsing gives one or the other follows from there being no third (`accepted_or_rejected`).

What a check does not look at cannot change its result. The options only take part through
whether they accept the one version in the header (`value_parse_congr`), and a file that is
stopped at the gate is stopped whatever follows its header (`parse_eq_of_stopped`), with the same
events logged.
-/
import ClassPool.Proofs.ClassFile.Parsing
import ClassPool.Proofs.Pool.Locality
import ClassPool.Proofs.Pool.RoundTrip

set_option autoImplicit false

namespace ClassPool

/-! ## 1. Headers at their offsets -/

/-- The name in a version is that of the release with its major version, if there is one. -/
theorem Version.name_cases (version : Version) :
    (∃ release : Release, release.major = version.major ∧ version.name = release.name) ∨
      (∀ release : Release, release.major ≠ version.major) ∧ version.name = "Unknown" := by
  rw [Version.name, Release.nameOfMajor]
  cases hfound : Release.ofMajor? version.major with
  | some release =>
      left
      refine ⟨release, ?_, rfl⟩
      rw [Release.ofMajor?] at hfound
      exact eq_of_beq (List.find?_some (p := fun r : Release => r.major == version.major) hfound)
  | none =>
      right
      refine ⟨?_, rfl⟩
      intro release hmajor
      rw [← hmajor, Release.ofMajor?_major] at hfound
      cases hfound

namespace ClassFile

/-- The bytes of the magic number. -/
def magicBytes : List UInt8 := [0xCA, 0xFE, 0xBA, 0xBE]

theorem encode_magicNumber : BigEndian.encode 4 magicNumber.toNat = magicBytes := by
  decide

/-- The number in the first four bytes. -/
def magicIn (bytes : List UInt8) : UInt32 :=
  UInt32.ofNat (BigEndian.decode (bytes.take 4))

/-- The version in the four bytes behind the magic number, the minor one first. -/
def versionIn (bytes : List UInt8) : Version where
  minor := UInt16.ofNat (BigEndian.decode ((bytes.drop 4).take 2))
  major := UInt16.ofNat (BigEndian.decode ((bytes.drop 6).take 2))

end ClassFile

namespace Header

open ClassFile

theorem magicIn_bytes (header : Header) (rest : List UInt8) :
    magicIn (header.bytes ++ rest) = header.magic := by
  have hlt : header.magic.toNat < 256 ^ 4 := header.magic.toNat_lt
  unfold magicIn bytes
  simp only [List.append_assoc]
  rw [List.take_left' (BigEndian.length_encode 4 _), BigEndian.decode_encode,
    Nat.mod_eq_of_lt hlt, UInt32.ofNat_toNat]

theorem versionIn_bytes (header : Header) (rest : List UInt8) :
    versionIn (header.bytes ++ rest) = header.version := by
  have hminor : header.version.minor.toNat < 256 ^ 2 := header.version.minor.toNat_lt
  have hmajor : header.version.major.toNat < 256 ^ 2 := header.version.major.toNat_lt
  have hsix : (BigEndian.encode 4 header.magic.toNat
      ++ BigEndian.encode 2 header.version.minor.toNat).length = 6 := by
    rw [List.length_append, BigEndian.length_encode, BigEndian.length_encode]
  unfold versionIn bytes
  rw [List.append_assoc, List.drop_left' hsix, List.take_left' (BigEndian.length_encode 2 _)]
  simp only [List.append_assoc]
  rw [List.drop_left' (BigEndian.length_encode 4 _), List.take_left' (BigEndian.length_encode 2 _),
    BigEndian.decode_encode, BigEndian.decode_encode, Nat.mod_eq_of_lt hminor,
    Nat.mod_eq_of_lt hmajor, UInt16.ofNat_toNat, UInt16.ofNat_toNat]

/-- **A header is read from its offsets** wherever there are enough bytes. -/
theorem read?_of_le {bytes : List UInt8} (h : length ≤ bytes.length) :
    read? bytes = some ⟨magicIn bytes, versionIn bytes⟩ := by
  obtain ⟨header, rest, rfl⟩ := exists_bytes_append h
  rw [read?_bytes, magicIn_bytes, versionIn_bytes]

theorem magicIn_eq_iff {bytes : List UInt8} (h : length ≤ bytes.length) :
    magicIn bytes = magicNumber ↔ bytes.take 4 = magicBytes := by
  have hlen : (bytes.take 4).length = 4 := by
    rw [List.length_take]
    unfold length at h
    omega
  constructor
  · intro hmagic
    have hlt := BigEndian.decode_lt (bytes.take 4)
    rw [hlen] at hlt
    have hnum : BigEndian.decode (bytes.take 4) = magicNumber.toNat := by
      rw [← hmagic, magicIn, UInt32.toNat_ofNat_of_lt' hlt]
    rw [← BigEndian.encode_decode (bytes.take 4), hlen, hnum, encode_magicNumber]
  · intro hbytes
    rw [magicIn, hbytes]
    rfl

/-- Bytes that share what a header takes share the header. -/
theorem read?_eq_of_take_eq {bytes bytes' : List UInt8}
    (h : bytes.take length = bytes'.take length) (hlen : length ≤ bytes.length) :
    read? bytes = read? bytes' := by
  have hlen' : length ≤ bytes'.length := by
    have hsame := congrArg List.length h
    rw [List.length_take, List.length_take] at hsame
    omega
  have hread := read?_take (read?_of_le hlen) (Nat.le_refl length)
  have hread' := read?_take (read?_of_le hlen') (Nat.le_refl length)
  rw [h] at hread
  rw [read?_of_le hlen, read?_of_le hlen', ← hread, hread']

end Header

namespace ClassFile

/-! ## 2. Accepted and rejected -/

/-- What bytes have to be to be read as a class file. -/
structure Accepted (bytes : List UInt8) (options : Options) (c : ClassFile) : Prop where
  length_le : 8 ≤ bytes.length
  magic : bytes.take 4 = magicBytes
  version_eq : c.version = versionIn bytes
  accepts : options.accepts c.version.major = true
  decode_eq : Pool.decode bytes 8 = .ok c.constantPool

/-- Why bytes are not read as a class file. A check counts only behind those that are passed. -/
inductive Rejected (bytes : List UInt8) (options : Options) : ParseError → Prop where
  | short (hlen : bytes.length < 8) : Rejected bytes options (.malformed (.cutShort 0 bytes.length))
  | magic (hlen : 8 ≤ bytes.length) (hmagic : bytes.take 4 ≠ magicBytes) :
      Rejected bytes options (.wrongMagic (magicIn bytes))
  | version (hlen : 8 ≤ bytes.length) (hmagic : bytes.take 4 = magicBytes)
      (hversion : options.accepts (versionIn bytes).major = false) :
      Rejected bytes options (.refusedVersion (versionIn bytes))
  | pool {cause : DecodeError} (hlen : 8 ≤ bytes.length) (hmagic : bytes.take 4 = magicBytes)
      (haccepts : options.accepts (versionIn bytes).major = true)
      (hdecode : Pool.decode bytes 8 = .error cause) :
      Rejected bytes options (.malformed cause)

/-- Bytes that have a header but fail the check of the magic bytes or that of the version. -/
def Stopped (bytes : List UInt8) (options : Options) : Prop :=
  8 ≤ bytes.length ∧
    (bytes.take 4 = magicBytes → options.accepts (versionIn bytes).major = false)

theorem accepted_or_rejected (bytes : List UInt8) (options : Options) :
    (∃ c, Accepted bytes options c) ∨ ∃ error, Rejected bytes options error := by
  by_cases hlen : 8 ≤ bytes.length
  · by_cases hmagic : bytes.take 4 = magicBytes
    · cases haccepts : options.accepts (versionIn bytes).major with
      | false => exact .inr ⟨_, .version hlen hmagic haccepts⟩
      | true =>
          cases hdecode : Pool.decode bytes 8 with
          | ok pool =>
              exact .inl ⟨⟨versionIn bytes, pool⟩, hlen, hmagic, rfl, haccepts, hdecode⟩
          | error cause => exact .inr ⟨_, .pool hlen hmagic haccepts hdecode⟩
    · exact .inr ⟨_, .magic hlen hmagic⟩
  · exact .inr ⟨_, .short (Nat.lt_of_not_le hlen)⟩

/-! ## 3. The checks in their order -/

section

variable {bytes : List UInt8} {options : Options} {header : Header}

theorem parse_of_wrongMagic (hread : Header.read? bytes = some header)
    (hmagic : header.magic ≠ magicNumber) :
    parse bytes options = ⟨[], .error (.wrongMagic header.magic)⟩ := by
  unfold parse
  rw [hread]
  dsimp only
  rw [if_pos hmagic]

theorem parse_of_refusedVersion (hread : Header.read? bytes = some header)
    (hmagic : header.magic = magicNumber)
    (hversion : options.accepts header.version.major = false) :
    parse bytes options
      = ⟨[.versionFound header.version, .versionRefused header.version options.accepted],
          .error (.refusedVersion header.version)⟩ := by
  unfold parse
  rw [hread]
  dsimp only
  rw [if_neg (not_not_intro hmagic), hversion]
  rfl

theorem Accepted.value_parse {c : ClassFile} (h : Accepted bytes options c) :
    (parse bytes options).value = .ok c := by
  obtain ⟨hlen, hmagic, hversion, haccepts, hdecode⟩ := h
  rw [value_parse_eq_ok_iff]
  exact ⟨_, Header.read?_of_le hlen, (Header.magicIn_eq_iff hlen).mpr hmagic,
    by rwa [← hversion], hversion, hdecode⟩

theorem Rejected.value_parse {error : ParseError} (h : Rejected bytes options error) :
    (parse bytes options).value = .error error := by
  cases h with
  | short hlen => exact value_parse_of_none options hlen
  | magic hlen hmagic =>
      have hne := (Header.magicIn_eq_iff hlen).not.mpr hmagic
      rw [parse_of_wrongMagic (Header.read?_of_le hlen) hne]
  | version hlen hmagic hversion =>
      rw [parse_of_refusedVersion (Header.read?_of_le hlen)
        ((Header.magicIn_eq_iff hlen).mpr hmagic) hversion]
  | pool hlen hmagic haccepts hdecode =>
      have hvalue := value_parse_of_accepted (Header.read?_of_le hlen)
        ((Header.magicIn_eq_iff hlen).mpr hmagic) haccepts
      rw [hvalue, Header.length, hdecode]

theorem value_parse_eq_ok_iff_accepted {c : ClassFile} :
    (parse bytes options).value = .ok c ↔ Accepted bytes options c := by
  refine ⟨fun h => ?_, Accepted.value_parse⟩
  rcases accepted_or_rejected bytes options with ⟨c', haccepted⟩ | ⟨error, hrejected⟩
  · rw [haccepted.value_parse] at h
    cases h
    exact haccepted
  · rw [hrejected.value_parse] at h
    cases h

theorem value_parse_eq_error_iff_rejected {error : ParseError} :
    (parse bytes options).value = .error error ↔ Rejected bytes options error := by
  refine ⟨fun h => ?_, Rejected.value_parse⟩
  rcases accepted_or_rejected bytes options with ⟨c, haccepted⟩ | ⟨error', hrejected⟩
  · rw [haccepted.value_parse] at h
    cases h
  · rw [hrejected.value_parse] at h
    cases h
    exact hrejected

end

/-! ## 4. What the checks do not look at -/

/-- Options matter through the one version that stands in the header. -/
theorem value_parse_congr {bytes : List UInt8} {options options' : Options}
    (h : 8 ≤ bytes.length →
      options.accepts (versionIn bytes).major = options'.accepts (versionIn bytes).major) :
    (parse bytes options).value = (parse bytes options').value := by
  rcases accepted_or_rejected bytes options with ⟨c, haccepted⟩ | ⟨error, hrejected⟩
  · rw [haccepted.value_parse]
    obtain ⟨hlen, hmagic, hversion, haccepts, hdecode⟩ := haccepted
    have haccepts' : options'.accepts c.version.major = true := by
      rwa [hversion, ← h hlen, ← hversion]
    exact (Accepted.value_parse ⟨hlen, hmagic, hversion, haccepts', hdecode⟩).symm
  · rw [hrejected.value_parse]
    have hrejected' : Rejected bytes options' error := by
      cases hrejected with
      | short hlen => exact .short hlen
      | magic hlen hmagic => exact .magic hlen hmagic
      | version hlen hmagic hversion => exact .version hlen hmagic (by rwa [← h hlen])
      | pool hlen hmagic haccepts hdecode => exact .pool hlen hmagic (by rwa [← h hlen]) hdecode
    exact hrejected'.value_parse.symm

/-- **What stops at the gate stops whatever follows its header**, and logs the same. -/
theorem parse_eq_of_stopped {bytes bytes' : List UInt8} {options : Options}
    (hsame : bytes.take 8 = bytes'.take 8) (h : Stopped bytes options) :
    parse bytes options = parse bytes' options := by
  obtain ⟨hlen, hstop⟩ := h
  have hread := Header.read?_of_le hlen
  have hread' := hread
  rw [Header.read?_eq_of_take_eq hsame hlen] at hread'
  by_cases hmagic : bytes.take 4 = magicBytes
  · have hnumber := (Header.magicIn_eq_iff hlen).mpr hmagic
    rw [parse_of_refusedVersion hread hnumber (hstop hmagic),
      parse_of_refusedVersion hread' hnumber (hstop hmagic)]
  · have hne := (Header.magicIn_eq_iff hlen).not.mpr hmagic
    rw [parse_of_wrongMagic hread hne, parse_of_wrongMagic hread' hne]

/-! ## 5. Class files around built pools -/

/-- **A written pool behind a header is a class file**, whatever follows it. -/
theorem value_parse_of_build {entries : List Entry} {p : Pool} {encoding : List UInt8}
    (hbuild : Pool.build entries = .ok p) (hwrite : p.write.run none = ⟨encoding, .ok ()⟩)
    {options : Options} {version : Version} (haccepts : options.accepts version.major = true)
    (behind : List UInt8) :
    (parse (magicBytes ++ BigEndian.encode 2 version.minor.toNat
        ++ BigEndian.encode 2 version.major.toNat ++ encoding ++ behind) options).value
      = .ok ⟨version, p.movedBy 8⟩ := by
  have hfits : Entry.AllFit p.entries := by
    rw [← Pool.write_ok_iff, hwrite]
  rw [(Pool.delivers_write hfits).run_none] at hwrite
  obtain rfl : p.bytes = encoding := congrArg Written.bytes hwrite
  have hheader : magicBytes ++ BigEndian.encode 2 version.minor.toNat
      ++ BigEndian.encode 2 version.major.toNat = Header.bytes ⟨magicNumber, version⟩ := by
    rw [Header.bytes, encode_magicNumber]
  have hdecode := Pool.decode_bytes (Pool.fills_of_build hbuild) hfits
    (Header.bytes ⟨magicNumber, version⟩) behind
  have hstop : p.stop = p.bytes.length := by
    obtain ⟨-, rfl, hstop⟩ := Pool.build_eq_ok_iff.mp hbuild
    rw [hstop, Pool.length_bytes]
  rw [Header.length_bytes, ← hstop] at hdecode
  rw [hheader, value_parse_eq_ok_iff]
  refine ⟨⟨magicNumber, version⟩, ?_, rfl, haccepts, rfl, hdecode⟩
  rw [List.append_assoc]
  exact Header.read?_bytes _ _

/-! ## 6. The gate -/

/-- **The gate.** A class file is what passes every check, an error is that of the first check that
fails, and neither depends on what no check looks at: of the options only whether the version is
accepted, of a file that is stopped at the gate only its header. Any pool that can be written
passes behind a header whose version is accepted. -/
theorem parse_gate :
    (∀ bytes options c, (parse bytes options).value = .ok c ↔ Accepted bytes options c) ∧
    (∀ bytes options error,
      (parse bytes options).value = .error error ↔ Rejected bytes options error) ∧
    (∀ version : Version,
      (∃ release : Release, release.major = version.major ∧ version.name = release.name) ∨
        (∀ release : Release, release.major ≠ version.major) ∧ version.name = "Unknown") ∧
    (∀ bytes options options',
      (8 ≤ bytes.length →
        options.accepts (versionIn bytes).major = options'.accepts (versionIn bytes).major) →
      (parse bytes options).value = (parse bytes options').value) ∧
    (∀ bytes bytes' options, bytes.take 8 = bytes'.take 8 → Stopped bytes options →
      parse bytes options = parse bytes' options) ∧
    ∀ entries p encoding options (version : Version) behind, Pool.build entries = .ok p →
      p.write.run none = ⟨encoding, .ok ()⟩ → options.accepts version.major = true →
      (parse (magicBytes ++ BigEndian.encode 2 version.minor.toNat
          ++ BigEndian.encode 2 version.major.toNat ++ encoding ++ behind) options).value
        = .ok ⟨version, p.movedBy 8⟩ := by
  refine ⟨?_, ?_, Version.name_cases, ?_, ?_, ?_⟩
  · intro bytes options c
    exact value_parse_eq_ok_iff_accepted
  · intro bytes options error
    exact value_parse_eq_error_iff_rejected
  · intro bytes options options' h
    exact value_parse_congr h
  · intro bytes bytes' options hsame hstopped
    exact parse_eq_of_stopped hsame hstopped
  · intro entries p encoding options version behind hbuild hwrite haccepts
    exact value_parse_of_build hbuild hwrite haccepts behind

/-- A version that is not accepted in front of a pool that is no pool, and a text behind a header:
read with options that differ in all but the one version, and with bytes left over. -/
theorem parse_gate_java8 :
    parse [0xCA, 0xFE, 0xBA, 0xBE, 0, 0, 0, 52, 0xFF, 0xFF, 11] Options.standard
        = parse [0xCA, 0xFE, 0xBA, 0xBE, 0, 0, 0, 52] Options.standard ∧
      (parse [0xCA, 0xFE, 0xBA, 0xBE, 0, 3, 0, 52, 0, 2, 1, 0, 1, 0x41, 9] ⟨true, [55, 52]⟩).value
        = (parse [0xCA, 0xFE, 0xBA, 0xBE, 0, 3, 0, 52, 0, 2, 1, 0, 1, 0x41, 9]
            ⟨false, [52, 46, 52]⟩).value ∧
      (parse [0xCA, 0xFE, 0xBA, 0xBE, 0, 3, 0, 52, 0, 2, 1, 0, 1, 0x41, 9] ⟨true, [55, 52]⟩).value
        = .ok ⟨⟨3, 52⟩, ⟨2, [.utf8 "A"], 14⟩⟩ := by
  obtain ⟨-, -, -, hoptions, hstopped, hbuilt⟩ := parse_gate
  refine ⟨hstopped _ _ _ rfl ⟨by decide, fun _ => by decide⟩, hoptions _ _ _ fun _ => by decide, ?_⟩
  exact hbuilt [.utf8 "A"] ⟨2, [.utf8 "A"], 6⟩ [0, 2, 1, 0, 1, 0x41] ⟨true, [55, 52]⟩ ⟨3, 52⟩ [9]
    rfl rfl rfl

end ClassFile

end ClassPool
