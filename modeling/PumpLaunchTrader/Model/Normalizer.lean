import PumpLaunchTrader.Model.Geyser
import PumpLaunchTrader.Model.Idl

/-! # The event normalizer (`runtime::live_source::GeyserEventNormalizer`)

Ingest outputs become normalized events. The normalizer keeps what it learned of created
tokens (the mint of a curve, the creator of a mint), the mints with a buy, and the curve
updates that arrived before the creation of their token. -/

namespace PumpLaunchTrader

def systemProgramId : String := "11111111111111111111111111111111"
def computeBudgetProgramId : String := "ComputeBudget111111111111111111111111111111"
def wsolMint : String := "So11111111111111111111111111111111111111112"

/-! ## Values of decoded data -/

/-- A digit behind the last one that a decimal can hold rounds it, half up. -/
def roundDecimal (data scale : ℕ) (next : Char) : Option Decimal :=
  let rounded : ℕ := data + 1
  if next.isDigit then
    if next.toNat - '0'.toNat < 5 then some ((data : ℚ) / 10 ^ scale)
    else if rounded < 2 ^ 96 then some ((rounded : ℚ) / 10 ^ scale)
    else if scale = 0 then none
    else some (((rounded + 4) / 10 : ℕ) / 10 ^ (scale - 1))
  else if next = '_' ∨ next = '.' then some ((data : ℚ) / 10 ^ scale)
  else none

/-- The unsigned part of a decimal text, rounded where it has more digits than a decimal
holds. -/
def parseRoundedBody : List Char → Bool → Bool → ℕ → ℕ → Option Decimal
  | [], _, seen, data, scale => if seen then some ((data : ℚ) / 10 ^ scale) else none
  | c :: rest, point, seen, data, scale =>
    if point ∧ Decimal.maxScale ≤ scale then roundDecimal data scale c
    else if c.isDigit then
      let next := data * 10 + (c.toNat - '0'.toNat)
      if next < 2 ^ 96 then
        parseRoundedBody rest point true next (if point then scale + 1 else scale)
      else if point then roundDecimal data scale c
      else none
    else if c = '.' ∧ ¬ point then parseRoundedBody rest true seen data scale
    else if c = '_' ∧ seen then parseRoundedBody rest point seen data scale
    else none

/-- `Decimal::from_str`. -/
def Decimal.fromStr (text : String) : Option Decimal :=
  match text.toList with
  | '-' :: body => (parseRoundedBody body false false 0 0).map fun value => -value
  | '+' :: body => parseRoundedBody body false false 0 0
  | body => parseRoundedBody body false false 0 0

/-- `json_decimal`. -/
def jsonDecimal (value : JsonValue) : Option Decimal :=
  match value.asInt with
  | some n => some n
  | none => value.asStr.bind Decimal.fromStr

/-- `value_decimal`. -/
def valueDecimal (map : KeyedMap String JsonValue) (key : String) : Option Decimal :=
  (map.lookup key).bind jsonDecimal

/-- `value_decimal_alias`. -/
def valueDecimalAlias (map : KeyedMap String JsonValue) (keys : List String) :
    Option Decimal :=
  keys.findSome? (valueDecimal map)

/-- `value_string`. -/
def valueString (map : KeyedMap String JsonValue) (key : String) : Option String :=
  (map.lookup key).bind JsonValue.asStr

/-- `value_pubkey`. -/
def valuePubkey (map : KeyedMap String JsonValue) (key : String) : Option PubkeyValue :=
  (valueString map key).map .mk

/-- `account_alias`. -/
def accountAlias (map : KeyedMap String String) (keys : List String) : Option String :=
  keys.findSome? map.lookup

/-- `quote_asset_type`. -/
def quoteAssetType (args : KeyedMap String JsonValue) : QuoteAssetType :=
  match valueString args "quote_mint" with
  | some quote => if quote = wsolMint then .wrappedSol else .other
  | none => .unknown

/-- `tx_status`. -/
def txStatus (succeeded : Bool) : TransactionStatus :=
  if succeeded then .success else .failed

/-- `safe_price`. -/
def safePrice (quote token : Decimal) : Decimal :=
  if token ≤ 0 then 0 else quote / token

/-! ## Balances of a transaction -/

namespace TransactionTokenBalance

/-- `token_amount`. -/
def tokenAmount (balance : TransactionTokenBalance) : Decimal :=
  (Decimal.fromStr balance.amount).getD 0

end TransactionTokenBalance

/-- `account_key_at`. -/
def accountKeyAt (accountKeys : List String) (index : ℕ) : String :=
  (accountKeys[index]?).getD ("account_" ++ toString index)

/-- `total_token_balance`. -/
def totalTokenBalance (balances : List TransactionTokenBalance) (mint : String)
    (owner : Option String) : Decimal :=
  ((balances.filter fun b => b.mint = mint ∧ (owner = none ∨ b.owner = owner)).map
    (·.tokenAmount)).sum

/-- `estimate_token_delta`. -/
def estimateTokenDelta (before after : List TransactionTokenBalance) (mint : String)
    (owner : Option String) : Decimal :=
  totalTokenBalance after mint owner - totalTokenBalance before mint owner

namespace TransactionUpdate

/-- The lamports of an account before and after the transaction. -/
def lamportsOf (self : TransactionUpdate) (account : String) : Option (ℕ × ℕ) :=
  (self.accountKeys.idxOf? account).map fun index =>
    (self.preBalances.getD index 0, self.postBalances.getD index 0)

/-- `estimate_lamport_gain`. -/
def estimateLamportGain (self : TransactionUpdate) (account : String) : Option Decimal :=
  (self.lamportsOf account).map fun b => ((b.2 - b.1 : ℕ) : ℚ)

/-- `estimate_lamport_spend`. -/
def estimateLamportSpend (self : TransactionUpdate) (account : String) : Option Decimal :=
  (self.lamportsOf account).map fun b => ((b.1 - b.2 - self.feeLamports : ℕ) : ℚ)

/-! ## Shape of a transaction -/

/-- `parse_compute_budget`: the unit limit and the unit price, each as set last. -/
def computeBudget (self : TransactionUpdate) : Option ℕ × Option ℕ :=
  self.instructions.foldl
    (fun budget instruction =>
      if instruction.programId ≠ computeBudgetProgramId then budget
      else
        match Encoding.hexDecode instruction.dataHex with
        | some (2 :: data) =>
          if data.length < 4 then budget
          else (some (Encoding.littleEndian (data.take 4)), budget.2)
        | some (3 :: data) =>
          if data.length < 8 then budget
          else (budget.1, some (Encoding.littleEndian (data.take 8)))
        | _ => budget)
    (none, none)

/-- The fee that the compute budget bids. -/
def estimatedPriorityFee (self : TransactionUpdate) : Option ℕ :=
  match self.computeBudget with
  | (some limit, some price) => some (min (limit * price) (2 ^ 64 - 1) / 1000000)
  | _ => none

/-- `hash_strings` of the account keys. -/
def accountListHash (self : TransactionUpdate) : String :=
  Sha256.hex (Sha256.digest (self.accountKeys.flatMap fun key => key.toUTF8.toList ++ [0xff]))

/-- `hash_instruction_shape`. -/
def instructionShapeHash (self : TransactionUpdate) : String :=
  Sha256.hex (Sha256.digest (self.instructions.flatMap fun instruction =>
    instruction.programId.toUTF8.toList ++ [0xfe] ++
    (toString instruction.accounts.length).toUTF8.toList ++ [0xfd] ++
    (toString instruction.dataHex.utf8ByteSize).toUTF8.toList ++ [0xfc]))

/-- `bundle_like_evidence`. -/
def bundleLikeEvidence (self : TransactionUpdate) : Option String :=
  let evidence :=
    (if self.transactionIndex.isSome then ["transaction_index_observed"] else []) ++
    (if 0 < self.computeBudget.2.getD 0 then ["priority_fee_bid_observed"] else []) ++
    (if self.computeUnitsConsumed.isSome then ["compute_units_observed"] else [])
  if evidence.isEmpty then none else some ("|".intercalate evidence)

/-- The prefix of the packet hash, by the source of the metadata. -/
def observedSourcePrefix : EventSource → String
  | .deshredTentative => "deshred"
  | .shredTentative => "shred"
  | _ => "geyser"

/-- The `ObservedTransaction` event at the head of a transaction's events. -/
def observedEvent (self : TransactionUpdate) (info : EventMeta) : NormalizedEvent where
  info := info
  payload := .observedTransaction {
    signatureHint := some self.signature
    slotHint := some self.slot
    entryIndex := some 0
    txPositionEstimate := self.transactionIndex
    signer := self.accountKeys.head?
    programIds := self.instructions.map (·.programId)
    accountCount := self.accountKeys.length
    instructionCount := self.instructions.length
    accountListHash := some self.accountListHash
    instructionShapeHash := some self.instructionShapeHash
    computeUnitLimit := self.computeBudget.1
    computeUnitPrice := self.computeBudget.2
    estimatedPriorityFeeLamports := self.estimatedPriorityFee
    txFeeLamports := some self.feeLamports
    computeUnitsConsumed := self.computeUnitsConsumed
    preSolBalancesLamports := self.preBalances
    postSolBalancesLamports := self.postBalances
    failedTransaction := !self.succeeded
    errorCode := self.errorCode
    bundleLikeEvidence := self.bundleLikeEvidence
    rawPacketHash := observedSourcePrefix info.source ++ ":" ++ self.signature
    firstSeenByShredNs :=
      if info.canonicality = .tentative then info.observedAtMonotonicNs else 0
    decodeConfidence := info.decodeConfidence }

/-- The status that a transaction's events carry. -/
def status (self : TransactionUpdate) (info : EventMeta) : TransactionStatus :=
  if info.canonicality = .tentative then .unknown else txStatus self.succeeded

/-! ## Holder balances -/

end TransactionUpdate

structure PreTokenBalance where
  owner : Option String
  tokenAccount : String
  amountRaw : Decimal
  accountIndex : ℕ
  decimals : ℕ
  deriving DecidableEq, Repr

namespace TransactionUpdate

/-- The balances before the transaction by mint and token account. -/
def preTokenBalanceMap (self : TransactionUpdate) :
    KeyedMap (String × String) PreTokenBalance :=
  self.preTokenBalances.foldl
    (fun (pre : KeyedMap (String × String) PreTokenBalance) balance =>
      let tokenAccount := accountKeyAt self.accountKeys balance.accountIndex
      pre.insert (balance.mint, tokenAccount) {
        owner := balance.owner
        tokenAccount
        amountRaw := balance.tokenAmount
        accountIndex := balance.accountIndex
        decimals := balance.decimals })
    ∅

/-- `u8::try_from`. -/
def decimalsByte (decimals : ℕ) : Option UInt8 :=
  if decimals < 256 then some (UInt8.ofNat decimals) else none

/-- The event of a balance after the transaction. -/
def postBalanceEvent (self : TransactionUpdate) (info : EventMeta)
    (balance : TransactionTokenBalance) (previous : Option PreTokenBalance) :
    NormalizedEvent :=
  let tokenAccount := accountKeyAt self.accountKeys balance.accountIndex
  let owner := (balance.owner.or (previous.bind (·.owner))).getD
    ("owner_" ++ toString balance.accountIndex)
  let old := previous.map (·.amountRaw)
  { info := { info with accountPubkey := some ⟨tokenAccount⟩ }
    payload := .holderBalanceUpdate {
      mint := ⟨balance.mint⟩
      ownerWallet := ⟨owner⟩
      tokenAccount := ⟨tokenAccount⟩
      tokenDecimals := decimalsByte balance.decimals
      oldBalance := old
      newBalance := balance.tokenAmount
      delta := balance.tokenAmount - old.getD 0
      causedBySignature := some self.signature
      updateReason := "geyser_token_balance" } }

/-- The event of a balance that the transaction left without an entry. -/
def closedBalanceEvent (self : TransactionUpdate) (info : EventMeta) (mint : String)
    (previous : PreTokenBalance) : NormalizedEvent where
  info := { info with accountPubkey := some ⟨previous.tokenAccount⟩ }
  payload := .holderBalanceUpdate {
    mint := ⟨mint⟩
    ownerWallet := ⟨previous.owner.getD ("owner_" ++ toString previous.accountIndex)⟩
    tokenAccount := ⟨previous.tokenAccount⟩
    tokenDecimals := decimalsByte previous.decimals
    oldBalance := some previous.amountRaw
    newBalance := 0
    delta := -previous.amountRaw
    causedBySignature := some self.signature
    updateReason := "geyser_token_balance_closed_or_zeroed" }

/-- The events of the balances after the transaction, with the earlier balances that none
of them matched. -/
def postBalanceEvents (self : TransactionUpdate) (info : EventMeta) :
    List TransactionTokenBalance → KeyedMap (String × String) PreTokenBalance →
      List NormalizedEvent × KeyedMap (String × String) PreTokenBalance
  | [], pre => ([], pre)
  | balance :: rest, pre =>
    let key := (balance.mint, accountKeyAt self.accountKeys balance.accountIndex)
    let next := self.postBalanceEvents info rest (pre.erase key)
    (self.postBalanceEvent info balance (pre.lookup key) :: next.1, next.2)

/-- `holder_balance_events`. -/
def holderBalanceEvents (self : TransactionUpdate) (info : EventMeta) :
    List NormalizedEvent :=
  let post := self.postBalanceEvents info self.postTokenBalances self.preTokenBalanceMap
  post.1 ++ post.2.entries.map fun e => self.closedBalanceEvent info e.1.1 e.2

/-- `funding_event_from_transaction`. -/
def fundingEvent (self : TransactionUpdate) (info : EventMeta) : Option NormalizedEvent := do
  let instruction ← self.instructions.find? fun i => i.programId = systemProgramId
  let wallet ← instruction.accounts[1]?
  let funder ← instruction.accounts[0]?
  let amount ← self.estimateLamportGain wallet
  if amount ≤ 0 then none
  else
    some {
      info := info
      payload := .walletFunding {
        wallet := ⟨wallet⟩
        funder := ⟨funder⟩
        amount
        slot := self.slot
        signature := self.signature
        fundingGraphEdgeId := "funding:" ++ self.signature } }

end TransactionUpdate

/-! ## Curve updates -/

structure PendingCurveUpdate where
  info : EventMeta
  curvePubkey : String
  virtualQuote : Decimal
  virtualToken : Decimal
  realQuote : Decimal
  realToken : Decimal
  tokenTotalSupplyRaw : Option Decimal
  creator : Option PubkeyValue
  quoteMint : Option PubkeyValue
  reserveFieldSchema : String
  complete : Bool
  transactionSignature : Option String
  writeVersion : ℕ
  deriving DecidableEq, Repr

/-- `pending_curve_update_from_decoded`. -/
def pendingCurveUpdateFromDecoded (info : EventMeta) (curvePubkey : String)
    (decoded : DecodedAccount) (update : AccountUpdate) : PendingCurveUpdate where
  info := info
  curvePubkey := curvePubkey
  virtualQuote := (valueDecimalAlias decoded.fields
    ["virtual_quote_reserves", "virtual_sol_reserves"]).getD 0
  virtualToken := (valueDecimal decoded.fields "virtual_token_reserves").getD 0
  realQuote := (valueDecimalAlias decoded.fields
    ["real_quote_reserves", "real_sol_reserves"]).getD 0
  realToken := (valueDecimal decoded.fields "real_token_reserves").getD 0
  tokenTotalSupplyRaw := valueDecimal decoded.fields "token_total_supply"
  creator := valuePubkey decoded.fields "creator"
  quoteMint := valuePubkey decoded.fields "quote_mint"
  reserveFieldSchema :=
    if "virtual_quote_reserves" ∈ decoded.fields ∨ "real_quote_reserves" ∈ decoded.fields then
      "quote_reserves_v2"
    else "legacy_sol_reserves"
  complete := ((decoded.fields.lookup "complete").bind JsonValue.asBool).getD false
  transactionSignature := update.transactionSignature
  writeVersion := update.writeVersion

/-- `bonding_curve_event_from_pending`. -/
def PendingCurveUpdate.event (pending : PendingCurveUpdate) (mint : String) :
    NormalizedEvent :=
  let decimals := defaultPumpTokenDecimals
  let priceLamports := priceLamportsPerRawToken pending.virtualQuote pending.virtualToken
  let priceSol := (pumpVirtualReservePriceSolPerToken pending.virtualQuote
    pending.virtualToken decimals).getD 0
  let progress := pumpCurveProgressPctFromRealTokenReservesRaw pending.realToken decimals
  let confidence : Decimal := if priceLamports.isSome then 1 else 0
  { info := { pending.info with accountPubkey := some ⟨pending.curvePubkey⟩ }
    payload := .bondingCurveUpdate {
      mint := ⟨mint⟩
      virtualQuoteReserves := pending.virtualQuote
      virtualTokenReserves := pending.virtualToken
      realQuoteReserves := pending.realQuote
      realTokenReserves := pending.realToken
      tokenDecimals := some decimals
      tokenTotalSupplyRaw := pending.tokenTotalSupplyRaw
      tokenTotalSupplyUi := pending.tokenTotalSupplyRaw.map fun raw => rawTokensToUi raw decimals
      tokenTotalSupplySource := pending.tokenTotalSupplyRaw.map fun _ => "bonding_curve_observed"
      tokenTotalSupplyConfidence := pending.tokenTotalSupplyRaw.map fun _ => "observed"
      quoteMint := pending.quoteMint
      creator := pending.creator
      reserveFieldSchema := some pending.reserveFieldSchema
      priceLamportsPerRawToken := priceLamports
      priceSolPerToken := some priceSol
      reservePriceSource := some "virtual_reserves"
      reservePriceConfidence := some confidence
      price := priceSol
      marketCapQuote1b := some (pumpMarketCapQuote1b priceSol)
      marketCapQuoteTotalSupply :=
        some (pumpMarketCapQuoteTotalSupply priceSol pumpTotalSupplyUi)
      marketCapSource := some "price_times_curve_economic_supply"
      marketCapConfidence := some confidence
      curveCompleteFlag := some pending.complete
      curveProgressPct := progress
      curveProgressSource := some "real_token_reserves_ui_minus_reserved"
      curveProgressConfidence := progress.map fun _ => 1
      curveCompletionPct := progress
      updateReason := "geyser_account_update"
      causedBySignature := pending.transactionSignature
      accountWriteVersion := some pending.writeVersion } }

/-! ## Decoding by a list of descriptions -/

/-- `GeyserEventNormalizer::decode_instruction`: the first description that knows the data. -/
def decodeKnownInstruction (idls : List LoadedIdl) (instruction : TransactionInstruction) :
    Option DecodedInstruction :=
  (Encoding.hexDecode instruction.dataHex).bind fun data =>
    idls.findSome? fun idl =>
      match idl.decodeInstruction data with
      | .ok (.known decoded) => some decoded
      | _ => none

def isBuyName (name : String) : Bool :=
  name = "buy" ∨ name = "buy_v2" ∨ name = "buy_exact_quote_in_v2"

def isSellName (name : String) : Bool := name = "sell" ∨ name = "sell_v2"

def isCreateName (name : String) : Bool := name = "create" ∨ name = "create_v2"

/-- Some description decodes the instruction to a buy. -/
def decodesToBuy (idls : List LoadedIdl) (instruction : TransactionInstruction) : Bool :=
  match Encoding.hexDecode instruction.dataHex with
  | none => false
  | some data =>
    idls.any fun idl =>
      match idl.decodeInstruction data with
      | .ok (.known decoded) => isBuyName decoded.name
      | _ => false

/-- `count_decoded_buys`. -/
def countDecodedBuys (idls : List LoadedIdl) (instructions : List TransactionInstruction) : ℕ :=
  instructions.countP (decodesToBuy idls) % 2 ^ 32

/-- The `BondingCurve` accounts that the descriptions decode, one for each that can. -/
def decodeBondingCurves (idls : List LoadedIdl) (bytes : List UInt8) : List DecodedAccount :=
  idls.filterMap fun idl =>
    match idl.decodeAccount bytes with
    | .ok (.known decoded) => if decoded.name = "BondingCurve" then some decoded else none
    | _ => none

/-! ## The normalizer -/

structure GeyserEventNormalizer where
  idls : List LoadedIdl
  curveToMint : KeyedMap String String := ∅
  mintToCreator : KeyedMap String String := ∅
  seenBuyMints : Finset String := ∅
  pendingCurveUpdates : KeyedMap String (List PendingCurveUpdate) := ∅

/-- What the instructions of one transaction share. -/
structure TransactionContext where
  info : EventMeta
  update : TransactionUpdate

namespace TransactionContext

def status (ctx : TransactionContext) : TransactionStatus := ctx.update.status ctx.info

/-- The metadata of the events of one instruction. -/
def instructionMeta (ctx : TransactionContext) (index : ℕ) : EventMeta :=
  { ctx.info with
    instructionIndex := some (index % 2 ^ 16)
    rawReference := some {
      sourceId := ctx.update.signature
      cursor := some ("ix:" ++ toString index)
      offset := ctx.update.transactionIndex } }

end TransactionContext

/-- The accounts of an instruction under the names of its layout. -/
def accountMap (decoded : DecodedInstruction) (instruction : TransactionInstruction) :
    KeyedMap String String :=
  (decoded.accounts.zip instruction.accounts).foldl
    (fun (map : KeyedMap String String) a => map.insert a.1 a.2) ∅

/-- The debug text of an optional number. -/
def optionText : Option ℕ → String
  | none => "None"
  | some n => "Some(" ++ toString n ++ ")"

namespace GeyserEventNormalizer

/-- `flush_pending_curve_updates`. -/
def flushPendingCurveUpdates (self : GeyserEventNormalizer) (curvePubkey mint : String) :
    GeyserEventNormalizer × List NormalizedEvent :=
  ({ self with pendingCurveUpdates := self.pendingCurveUpdates.erase curvePubkey },
    ((self.pendingCurveUpdates.lookup curvePubkey).getD []).map (·.event mint))

/-- The `create` arm of the instruction loop. -/
def normalizeCreate (self : GeyserEventNormalizer) (ctx : TransactionContext) (index : ℕ)
    (instruction : TransactionInstruction) (decoded : DecodedInstruction) :
    GeyserEventNormalizer × List NormalizedEvent :=
  let accounts := accountMap decoded instruction
  let mint := (accountAlias accounts ["mint", "base_mint"]).getD ""
  let creator := ((accountAlias accounts ["creator", "user"]).or
    (valueString decoded.args "creator")).getD ""
  let payer := (accountAlias accounts ["user", "creator"]).getD creator
  let bondingCurve := (accounts.lookup "bonding_curve").getD ""
  if mint = "" ∨ creator = "" ∨ bondingCurve = "" then (self, [])
  else
    let created : NormalizedEvent := {
      info := ctx.instructionMeta index
      payload := .tokenCreated {
        mint := ⟨mint⟩
        tokenProgram := .splToken
        quoteMint := ((valuePubkey decoded.args "quote_mint").or
          ((accountAlias accounts ["quote_mint"]).map .mk)).getD ⟨"quote"⟩
        quoteAssetType := quoteAssetType decoded.args
        creatorWallet := ⟨creator⟩
        payer := ⟨payer⟩
        bondingCurveAccount := ⟨bondingCurve⟩
        associatedBondingCurveAccount := (accountAlias accounts
          ["associated_bonding_curve", "associated_base_bonding_curve",
            "associated_quote_bonding_curve"]).map .mk
        metadataAccount := none
        name := (valueString decoded.args "name").getD "unknown"
        symbol := (valueString decoded.args "symbol").getD "UNK"
        uri := (valueString decoded.args "uri").getD ""
        createInstructionVariant := decoded.name
        sameTransactionBuys := countDecodedBuys self.idls ctx.update.instructions
        sameSlotBuys := 0
        rawAccountList := instruction.accounts.map .mk
        launchTransactionFingerprint := some (
          "accounts:" ++ toString ctx.update.accountKeys.length ++
          "|ix:" ++ toString ctx.update.instructions.length ++
          "|cu:" ++ optionText ctx.update.computeBudget.1 ++
          "|cup:" ++ optionText ctx.update.computeBudget.2)
        status := ctx.status } }
    if ctx.status = .failed then (self, [created])
    else
      let learned : GeyserEventNormalizer := { self with
        curveToMint := self.curveToMint.insert bondingCurve mint
        mintToCreator := self.mintToCreator.insert mint creator }
      let flushed := learned.flushPendingCurveUpdates bondingCurve mint
      (flushed.1, created :: flushed.2)

/-- The `buy` arm of the instruction loop. -/
def normalizeBuy (self : GeyserEventNormalizer) (ctx : TransactionContext) (index : ℕ)
    (instruction : TransactionInstruction) (decoded : DecodedInstruction) :
    GeyserEventNormalizer × List NormalizedEvent :=
  let accounts := accountMap decoded instruction
  match accountAlias accounts ["mint", "base_mint"], accountAlias accounts ["buyer", "user"] with
  | some mint, some buyer =>
    let received := estimateTokenDelta ctx.update.preTokenBalances
      ctx.update.postTokenBalances mint (some buyer)
    let tokenOut :=
      if 0 < received then received
      else (valueDecimalAlias decoded.args
        ["min_token_out", "min_tokens_out", "amount"]).getD 1
    let quoteIn := ((ctx.update.estimateLamportSpend buyer).or
      (valueDecimalAlias decoded.args
        ["quote_in", "spendable_quote_in", "max_sol_cost"])).getD 0
    ({ self with seenBuyMints := insert mint self.seenBuyMints },
      [{ info := ctx.instructionMeta index
         payload := .pumpBuy {
          mint := ⟨mint⟩
          buyer := ⟨buyer⟩
          quoteIn
          tokenOut
          effectivePrice := safePrice quoteIn tokenOut
          maxQuoteCost := (valueDecimalAlias decoded.args
            ["max_quote_cost", "max_sol_cost", "spendable_quote_in", "quote_in"]).or
            (some quoteIn)
          computeUnitLimit := ctx.update.computeBudget.1
          computeUnitPrice := ctx.update.computeBudget.2
          estimatedPriorityFeeLamports := ctx.update.estimatedPriorityFee
          estimatedBaseFeeLamports := some ctx.update.feeLamports
          isCreator := self.mintToCreator.lookup mint = some buyer
          isFirstBuy := mint ∉ self.seenBuyMints
          status := ctx.status } }])
  | _, _ => (self, [])

/-- The `sell` arm of the instruction loop. -/
def normalizeSell (self : GeyserEventNormalizer) (ctx : TransactionContext) (index : ℕ)
    (instruction : TransactionInstruction) (decoded : DecodedInstruction) :
    GeyserEventNormalizer × List NormalizedEvent :=
  let accounts := accountMap decoded instruction
  match accountAlias accounts ["mint", "base_mint"],
      accountAlias accounts ["seller", "user"] with
  | some mint, some seller =>
    let sent := estimateTokenDelta ctx.update.postTokenBalances
      ctx.update.preTokenBalances mint (some seller)
    let tokenIn :=
      if 0 < sent then sent
      else (valueDecimalAlias decoded.args ["token_in", "amount"]).getD 1
    let quoteOut :=
      match ctx.update.estimateLamportGain seller with
      | some gain =>
        if 0 < gain then gain
        else (valueDecimalAlias decoded.args ["min_quote_out", "min_sol_output"]).getD 0
      | none => (valueDecimalAlias decoded.args ["min_quote_out", "min_sol_output"]).getD 0
    (self,
      [{ info := ctx.instructionMeta index
         payload := .pumpSell {
          mint := ⟨mint⟩
          seller := ⟨seller⟩
          quoteOut
          tokenIn
          effectivePrice := safePrice quoteOut tokenIn
          minQuoteOutput := valueDecimal decoded.args "min_quote_out"
          computeUnitLimit := ctx.update.computeBudget.1
          computeUnitPrice := ctx.update.computeBudget.2
          estimatedPriorityFeeLamports := ctx.update.estimatedPriorityFee
          estimatedBaseFeeLamports := some ctx.update.feeLamports
          isCreator := self.mintToCreator.lookup mint = some seller
          status := ctx.status } }])
  | _, _ => (self, [])

/-- One pass of the instruction loop. -/
def normalizeInstruction (self : GeyserEventNormalizer) (ctx : TransactionContext)
    (index : ℕ) (instruction : TransactionInstruction) :
    GeyserEventNormalizer × List NormalizedEvent :=
  match decodeKnownInstruction self.idls instruction with
  | none => (self, [])
  | some decoded =>
    if isCreateName decoded.name then self.normalizeCreate ctx index instruction decoded
    else if isBuyName decoded.name then self.normalizeBuy ctx index instruction decoded
    else if isSellName decoded.name then self.normalizeSell ctx index instruction decoded
    else (self, [])

/-- The instruction loop, from the index of its first instruction. -/
def normalizeInstructions (self : GeyserEventNormalizer) (ctx : TransactionContext) :
    ℕ → List TransactionInstruction → GeyserEventNormalizer × List NormalizedEvent
  | _, [] => (self, [])
  | index, instruction :: rest =>
    let first := self.normalizeInstruction ctx index instruction
    let others := first.1.normalizeInstructions ctx (index + 1) rest
    (others.1, first.2 ++ others.2)

/-- `normalize_transaction`. -/
def normalizeTransaction (self : GeyserEventNormalizer) (info : EventMeta)
    (update : TransactionUpdate) : GeyserEventNormalizer × List NormalizedEvent :=
  let looped := self.normalizeInstructions { info, update } 0 update.instructions
  (looped.1,
    update.observedEvent info :: (looped.2 ++
      (update.holderBalanceEvents info ++ (update.fundingEvent info).toList)))

/-- `normalize_account`. Without a mint for the curve the loop goes on, so that the update
waits once for each description that decodes it. -/
def normalizeAccount (self : GeyserEventNormalizer) (info : EventMeta)
    (update : AccountUpdate) : GeyserEventNormalizer × List NormalizedEvent :=
  match Encoding.base64Decode update.dataBase64 with
  | none => (self, [])
  | some bytes =>
    match (decodeBondingCurves self.idls bytes).map fun decoded =>
        pendingCurveUpdateFromDecoded info update.pubkey decoded update with
    | [] => (self, [])
    | pending :: others =>
      match self.curveToMint.lookup update.pubkey with
      | some mint => (self, [pending.event mint])
      | none =>
        ({ self with
            pendingCurveUpdates :=
              self.pendingCurveUpdates.upsert update.pubkey [] (· ++ pending :: others) }, [])

/-- `normalize_output`. -/
def normalizeOutput (self : GeyserEventNormalizer) :
    IngestOutput → GeyserEventNormalizer × List NormalizedEvent
  | .transaction info update => self.normalizeTransaction info update
  | .account info update => self.normalizeAccount info update
  | .dataGap info update => (self, [{ info, payload := .dataGap update }])
  | .slot _ _ | .block _ _ => (self, [])

/-- The outputs of one ingest call, in order. -/
def normalizeOutputs (self : GeyserEventNormalizer) :
    List IngestOutput → GeyserEventNormalizer × List NormalizedEvent
  | [] => (self, [])
  | output :: rest =>
    let first := self.normalizeOutput output
    let others := first.1.normalizeOutputs rest
    (others.1, first.2 ++ others.2)

end GeyserEventNormalizer

end PumpLaunchTrader
