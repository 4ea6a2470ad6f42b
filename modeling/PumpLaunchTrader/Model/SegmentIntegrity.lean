import PumpLaunchTrader.Lib.Lines
import PumpLaunchTrader.Lib.Encoding
import PumpLaunchTrader.Model.Math

/-! # Segment validation and upload (`r2-storage`)

A segment file holds JSON records, one a line, plain or as one zstd frame. The JSON parser
and the zstd codec are parameters, and so are the answers of the bucket. -/

namespace PumpLaunchTrader

abbrev Bytes := List UInt8

def newline : UInt8 := 10

/-- What `serde_json` and `zstd` make of bytes. -/
structure SegmentFormats where
  /-- `serde_json::from_slice::<serde_json::Value>` succeeds. -/
  isJson : Bytes → Bool
  /-- `zstd::stream::encode_all`. -/
  encodeAll : Bytes → Except String Bytes
  /-- `zstd::stream::decode_all`. -/
  decodeAll : Bytes → Except String Bytes

/-- What a path leads to. -/
inductive FileRead where
  | missing
  | unreadable
  | contents (bytes : Bytes)
  deriving DecidableEq, Repr

/-- `str::eq_ignore_ascii_case`. -/
def eqIgnoreAsciiCase (left right : String) : Bool := left.toLower = right.toLower

/-- `checksum_hex`. -/
def checksumHex (bytes : Bytes) : String := Sha256.hex (Sha256.digest bytes)

/-- `bytes_hex_prefix`. -/
def bytesHexPrefix (bytes : Bytes) (maxLen : ℕ) : String := Sha256.hex (bytes.take maxLen)

/-! ## Validation -/

structure SegmentIntegrityValidationOptions where
  artifactType : String
  sequenceNumber : ℕ
  expectedRecordCount : ℕ
  compression : Option String
  explicitlyEmpty : Bool

structure SegmentIntegrityValidationReport where
  path : String := ""
  artifactType : String
  sequenceNumber : ℕ
  pathIsOpen : Bool := false
  fileExists : Bool
  sizeBytes : ℕ := 0
  checksumSha256 : String := ""
  compression : Option String
  zstdDecodeOk : Bool := false
  jsonlParseOk : Bool := false
  parseErrorCount : ℕ := 0
  decodedRecordCount : ℕ := 0
  expectedRecordCount : ℕ
  recordCountMatches : Bool := false
  finalNewlinePresent : Bool := false
  decodedPrefixHex : String := ""
  decodedPrefixIsZstd : Bool := false
  valid : Bool := false
  errors : List String := []

def zstdMagic : Bytes := [0x28, 0xb5, 0x2f, 0xfd]

namespace SegmentFormats

/-- `parse_jsonl_value_record_count`: the lines that parse, and those that do not. -/
def parseJsonlValueRecordCount (self : SegmentFormats) (bytes : Bytes) : ℕ × ℕ :=
  let lines := Lines.records newline bytes
  (lines.countP self.isJson, lines.countP fun line => !self.isJson line)

/-- The bytes to look for records in. -/
def decoded (self : SegmentFormats) (compression : Option String) (bytes : Bytes) :
    Except String Bytes :=
  if compression.any fun value => eqIgnoreAsciiCase value "zstd" then self.decodeAll bytes
  else .ok bytes

/-- `SegmentIntegrityValidator::validate_bytes_into`. -/
def validateBytesInto (self : SegmentFormats) (bytes : Bytes)
    (options : SegmentIntegrityValidationOptions) (report : SegmentIntegrityValidationReport) :
    SegmentIntegrityValidationReport :=
  let decoding := self.decoded options.compression bytes
  let decoded := decoding.toOption.getD []
  let finalNewline :=
    if decoded = [] then options.explicitlyEmpty else decoded.getLast? = some newline
  let (recordCount, parseErrors) := self.parseJsonlValueRecordCount decoded
  let countMatches : Bool := options.expectedRecordCount = recordCount
  let isZstd := zstdMagic.isPrefixOf decoded
  let errors := report.errors ++
    (if bytes = [] ∧ options.explicitlyEmpty = false then ["segment_empty"] else []) ++
    (match decoding with
      | .ok _ => []
      | .error error => ["zstd_decode_failed:" ++ error]) ++
    (if finalNewline = false ∧ options.explicitlyEmpty = false then ["missing_final_newline"]
      else []) ++
    (if parseErrors = 0 then [] else ["jsonl_parse_failed"]) ++
    (if countMatches then []
      else ["record_count_mismatch:expected=" ++ toString options.expectedRecordCount ++
        " actual=" ++ toString recordCount]) ++
    (if isZstd then ["decoded_payload_is_zstd_magic_double_compression_suspected"] else [])
  { report with
    sizeBytes := bytes.length
    checksumSha256 := checksumHex bytes
    zstdDecodeOk := decoding.toBool
    decodedPrefixHex := bytesHexPrefix decoded 8
    decodedPrefixIsZstd := isZstd
    finalNewlinePresent := finalNewline
    decodedRecordCount := recordCount
    parseErrorCount := parseErrors
    jsonlParseOk := parseErrors = 0
    recordCountMatches := countMatches
    errors := errors
    valid := errors.isEmpty }

/-- `SegmentIntegrityValidator::validate_bytes`. -/
def validateBytes (self : SegmentFormats) (bytes : Bytes)
    (options : SegmentIntegrityValidationOptions) : SegmentIntegrityValidationReport :=
  self.validateBytesInto bytes options
    { artifactType := options.artifactType
      sequenceNumber := options.sequenceNumber
      fileExists := true
      expectedRecordCount := options.expectedRecordCount
      compression := options.compression }

/-- `SegmentIntegrityValidator::validate_file`, at a path that leads to `found`. -/
def validateFile (self : SegmentFormats) (path : String) (found : FileRead)
    (options : SegmentIntegrityValidationOptions) : Option SegmentIntegrityValidationReport :=
  let pathIsOpen := ".open".toList.isSuffixOf path.toList
  let report : SegmentIntegrityValidationReport :=
    { path := path
      artifactType := options.artifactType
      sequenceNumber := options.sequenceNumber
      pathIsOpen := pathIsOpen
      fileExists := found ≠ .missing
      expectedRecordCount := options.expectedRecordCount
      compression := options.compression
      errors := if pathIsOpen then ["open_segment_path"] else [] }
  match found with
  | .missing => some { report with errors := report.errors ++ ["file_missing"] }
  | .unreadable => none
  | .contents bytes => some (self.validateBytesInto bytes options report)

end SegmentFormats

/-! ## Upload -/

structure PreparedUpload where
  localPath : String
  bucket : String
  key : String
  body : Bytes
  contentType : String
  checksumSha256 : String
  deriving DecidableEq, Repr

structure R2UploadResult where
  localPath : String
  bucket : String
  key : String
  sizeBytes : ℕ
  checksumSha256 : String
  uploaded : Bool
  verified : Bool
  dryRun : Bool
  error : Option String
  deriving DecidableEq, Repr

/-- What the network answers to one upload: the connection, the put and the head request,
which returns the size of the object and the checksum in its metadata. -/
structure R2Answers where
  connect : Except String Unit := .ok ()
  putObject : Except String Unit
  headObject : Except String (ℕ × Option String)

/-- A client with its configuration. -/
structure R2Client where
  dryRun : Bool
  uploadEnabled : Bool
  managedPrefix : String
  runsPrefix : String
  datasetsBucket : Option String
  datasetsBucketEnv : String

namespace R2Client

/-- `R2Client::bucket_for_datasets`. -/
def bucketForDatasets (self : R2Client) : Option String :=
  self.datasetsBucket <|> if self.dryRun then some ("<" ++ self.datasetsBucketEnv ++ ">") else none

def trimSlashes (text : String) : String :=
  String.ofList ((text.toList.dropWhile (· = '/')).rdropWhile (· = '/'))

/-- `build_object_key`. -/
def buildObjectKey (managedPrefix keyPrefix relativePath : String) : String :=
  let cleanPrefix := trimSlashes keyPrefix
  let cleanRelative := String.ofList (relativePath.toList.dropWhile (· = '/'))
  if cleanPrefix = "" then trimSlashes managedPrefix ++ "/" ++ cleanRelative
  else trimSlashes managedPrefix ++ "/" ++ cleanPrefix ++ "/" ++ cleanRelative

/-- `R2Client::managed_key`. -/
def managedKey (self : R2Client) (keyPrefix relativePath : String) : String :=
  buildObjectKey self.managedPrefix keyPrefix relativePath

/-- `R2Client::prepare_upload` of a file as it is. -/
def prepareUpload (localPath bucket key contentType : String) (body : Bytes) : PreparedUpload :=
  { localPath := localPath
    bucket := bucket
    key := key
    body := body
    contentType := contentType
    checksumSha256 := checksumHex body }

/-- `R2Client::verify_object`, of an object that was just put. -/
def verifyObject (answers : R2Answers) (prepared : PreparedUpload) : Except String Bool :=
  match answers.headObject with
  | .error error => .error error
  | .ok (contentLength, sha256) =>
    .ok (contentLength = prepared.body.length ∧ sha256 = some prepared.checksumSha256)

/-- `R2Client::upload_prepared`. -/
def uploadPrepared (self : R2Client) (prepared : PreparedUpload) (verify : Bool)
    (answers : R2Answers) : Except String R2UploadResult :=
  let result : R2UploadResult :=
    { localPath := prepared.localPath
      bucket := prepared.bucket
      key := prepared.key
      sizeBytes := prepared.body.length
      checksumSha256 := prepared.checksumSha256
      uploaded := false
      verified := false
      dryRun := true
      error := none }
  if self.dryRun ∨ self.uploadEnabled = false then .ok result
  else do
    answers.connect
    answers.putObject
    let verified ← if verify then verifyObject answers prepared else .ok false
    .ok { result with uploaded := true, verified := verified, dryRun := false }

end R2Client

end PumpLaunchTrader
