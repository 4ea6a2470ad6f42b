import PumpLaunchTrader.Engine.ShredSignals
import PumpLaunchTrader.ShredExit.Calls

/-! # The class of a detected seller

Detection writes the class of the seller into the warning, and its lowercased `Debug` name
into the intent. The state engine reads the name in snake case. Only the names of one word
are the same in both spellings. -/

namespace PumpLaunchTrader

/-! ## Names of classes -/

namespace DangerousSellerClassification

/-- Whether the lowercased `Debug` name of a class is the name that the parser knows. -/
def SpelledAlike (self : DangerousSellerClassification) : Prop :=
  self = .dev ∨ self = .whale ∨ self = .unknown

instance (self : DangerousSellerClassification) : Decidable self.SpelledAlike :=
  inferInstanceAs (Decidable (_ ∨ _))

def classes : List DangerousSellerClassification :=
  [.dev, .devCluster, .top1Holder, .top3Holder, .top5Holder, .top10Holder, .bundleWallet,
    .bundleCluster, .whale, .smartWalletTakingProfit, .toxicSniper, .sameFunderCluster,
    .sameClientFingerprintCluster, .highPnlHolder, .freeRollingHolder, .unknown]

theorem mem_classes (self : DangerousSellerClassification) : self ∈ classes := by
  cases self <;> simp [classes]

/-- A class survives being written and parsed exactly when its name is one word that the
parser knows, or when it is the class that every unknown name stands for. -/
theorem parse_lowercase_name_iff (self : DangerousSellerClassification) :
    parseSellerClassification (lowercase self.name) = self ↔ self.SpelledAlike := by
  have htable : ∀ c ∈ classes,
      parseSellerClassification (lowercase c.name) = c ↔ c.SpelledAlike := by
    decide +kernel
  exact htable self self.mem_classes

end DangerousSellerClassification

/-! ## Class of a seller -/

/-- The class of the seller of a sell: that of its entry in the threat index, else the one
that the token and the sell show. -/
def sellerClass (token : TokenState) (payload : PumpSellEvent) : DangerousSellerClassification :=
  ((findThreatEntry token payload.seller.text).map ThreatWalletEntry.classification).getD
    (classifyWithoutIndex token payload)

/-- The threat index files the seller as developer, whale or unknown; or it has no entry for
it, and the seller is the creator or was no top holder. -/
def SellerSpelledAlike (token : TokenState) (payload : PumpSellEvent) : Prop :=
  (∀ entry ∈ findThreatEntry token payload.seller.text, entry.classification.SpelledAlike) ∧
    (findThreatEntry token payload.seller.text = none →
      token.creator = some payload.seller ∨ payload.isCreator = true ∨
        payload.isTopHolderPreSell = false)

theorem classifyWithoutIndex_spelledAlike_iff (token : TokenState) (payload : PumpSellEvent) :
    (classifyWithoutIndex token payload).SpelledAlike ↔
      token.creator = some payload.seller ∨ payload.isCreator = true ∨
        payload.isTopHolderPreSell = false := by
  unfold classifyWithoutIndex
  by_cases hcreator : token.creator = some payload.seller ∨ payload.isCreator = true
  · rw [if_pos hcreator]
    refine ⟨fun _ => ?_, fun _ => Or.inl rfl⟩
    rcases hcreator with hcreator | hcreator
    · exact Or.inl hcreator
    · exact Or.inr (Or.inl hcreator)
  · rw [if_neg hcreator]
    rw [not_or] at hcreator
    cases htop : payload.isTopHolderPreSell with
    | false => simp [DangerousSellerClassification.SpelledAlike]
    | true => simp [DangerousSellerClassification.SpelledAlike, hcreator]

theorem sellerClass_spelledAlike_iff (token : TokenState) (payload : PumpSellEvent) :
    (sellerClass token payload).SpelledAlike ↔ SellerSpelledAlike token payload := by
  unfold sellerClass SellerSpelledAlike
  cases hentry : findThreatEntry token payload.seller.text with
  | none => simp [classifyWithoutIndex_spelledAlike_iff]
  | some entry => simp

/-! ## Announced sells -/

namespace TentativeSellManager

/-- The class that detection assesses is a matter of the token and the sell alone. -/
theorem classification_assessSell (self : TentativeSellManager) (event : NormalizedEvent)
    (payload : PumpSellEvent) (token : TokenState) (features : FeatureSnapshot)
    (position : Option OpenPositionContext) :
    (self.assessSell event payload token features position).classification =
      sellerClass token payload := rfl

section announced

variable {self : TentativeSellManager} {event announced : NormalizedEvent}
  {payload : PumpSellEvent} {token : TokenState} {features : FeatureSnapshot}
  {risk : RiskAssessment} {position : Option OpenPositionContext}

/-- Whatever detection returns announces a sell that it takes. -/
theorem takesSell_of_mem_detect
    (h : announced ∈ (self.detectTentativeSell event token features risk position).2) :
    ∃ payload, self.TakesSell event payload := by
  by_contra hnot
  rw [detect_of_not_takesSell (not_exists.mp hnot)] at h
  cases h

/-- The payloads that announce a tracked sell. -/
def Announces (assessment : SellAssessment) (event : NormalizedEvent) (sell : PumpSellEvent)
    (token : TokenState) (features : FeatureSnapshot) (risk : RiskAssessment)
    (announced : EventPayload) : Prop :=
  announced = .tentativeSellIntentDetected (intentOf assessment event sell token) ∨
    announced = .tentativeMaliciousSellWarning (warningOf assessment event sell features risk) ∨
    (∃ armed, announced = .shredEmergencyExitArmed armed) ∨
    ∃ triggered, announced = .shredEmergencyExitTriggered triggered

theorem announces_of_mem_trackSell {manager : TentativeSellManager} {assessment : SellAssessment}
    (h : announced ∈ (manager.trackSell assessment event payload token features risk position).2) :
    ∃ content, announced = cloneWithPayload event content ∧
      Announces assessment event payload token features risk content := by
  unfold trackSell at h
  simp only [List.mem_append, List.mem_cons, List.not_mem_nil, or_false, Option.mem_toList,
    Option.map_eq_some_iff] at h
  rcases h with ((rfl | rfl) | ⟨armed, -, rfl⟩) | ⟨triggered, -, rfl⟩
  · exact ⟨_, rfl, Or.inl rfl⟩
  · exact ⟨_, rfl, Or.inr (Or.inl rfl)⟩
  · exact ⟨_, rfl, Or.inr (Or.inr (Or.inl ⟨armed, rfl⟩))⟩
  · exact ⟨_, rfl, Or.inr (Or.inr (Or.inr ⟨triggered, rfl⟩))⟩

/-- Detection announces a sell by its intent alone, or as a sell that it tracks. -/
theorem detect_announces (h : self.TakesSell event payload) (token : TokenState)
    (features : FeatureSnapshot) (risk : RiskAssessment)
    (position : Option OpenPositionContext) :
    ∃ assessment : SellAssessment, assessment.classification = sellerClass token payload ∧
      ((self.detectTentativeSell event token features risk position).2 =
          [cloneWithPayload event
            (.tentativeSellIntentDetected (intentOf assessment event payload token))] ∨
        ∃ counted : TentativeSellManager,
          (self.detectTentativeSell event token features risk position).2 =
            (counted.trackSell assessment event payload token features risk position).2) := by
  have hnot : ¬ (event.info.canonicality ≠ .tentative ∨ ¬ self.earlyIntent.enabled = true) := by
    simp [h.tentative, h.enabled]
  refine ⟨self.assessSell event payload token features position,
    self.classification_assessSell event payload token features position, ?_⟩
  unfold detectTentativeSell
  simp only [h.payload, if_neg hnot]
  split
  · exact Or.inl rfl
  · exact Or.inr ⟨_, rfl⟩

/-- An event of a detection is tentative, and announces a sell of the class of its seller. -/
theorem announces_of_mem_detect
    (h : announced ∈ (self.detectTentativeSell event token features risk position).2)
    (hsell : event.payload = .pumpSell payload) :
    announced.info.canonicality = .tentative ∧
      ∃ assessment : SellAssessment, assessment.classification = sellerClass token payload ∧
        Announces assessment event payload token features risk announced.payload := by
  obtain ⟨other, htakes⟩ := takesSell_of_mem_detect h
  have hsame : other = payload := EventPayload.pumpSell.inj (htakes.payload.symm.trans hsell)
  subst hsame
  obtain ⟨assessment, hclass, hevents⟩ := detect_announces htakes token features risk position
  have hcontent : ∃ content, announced = cloneWithPayload event content ∧
      Announces assessment event other token features risk content := by
    rcases hevents with halone | ⟨counted, htracked⟩
    · rw [halone, List.mem_singleton] at h
      exact ⟨_, h, Or.inl rfl⟩
    · rw [htracked] at h
      exact announces_of_mem_trackSell h
  obtain ⟨content, rfl, hannounces⟩ := hcontent
  rw [cloneWithPayload_canonicality, cloneWithPayload_payload]
  exact ⟨htakes.tentative, assessment, hclass, hannounces⟩

/-- An intent that detection returns names the class of its seller in lower case. -/
theorem intent_of_mem_detect {intent : TentativeSellIntentDetectedEvent}
    (h : announced ∈ (self.detectTentativeSell event token features risk position).2)
    (hsell : event.payload = .pumpSell payload)
    (hintent : announced.payload = .tentativeSellIntentDetected intent) :
    announced.info.canonicality = .tentative ∧
      intent.walletClassificationSnapshot = lowercase (sellerClass token payload).name := by
  obtain ⟨htentative, assessment, hclass, hpayload⟩ := announces_of_mem_detect h hsell
  rw [hintent, Announces] at hpayload
  simp only [EventPayload.tentativeSellIntentDetected.injEq, reduceCtorEq, exists_false,
    or_false] at hpayload
  rw [hpayload, ← hclass]
  exact ⟨htentative, rfl⟩

/-- A warning that detection returns carries the class of its seller. -/
theorem warning_of_mem_detect {warning : TentativeMaliciousSellWarningEvent}
    (h : announced ∈ (self.detectTentativeSell event token features risk position).2)
    (hsell : event.payload = .pumpSell payload)
    (hwarning : announced.payload = .tentativeMaliciousSellWarning warning) :
    warning.sellerClassification = sellerClass token payload := by
  obtain ⟨-, assessment, hclass, hpayload⟩ := announces_of_mem_detect h hsell
  rw [hwarning, Announces] at hpayload
  simp only [EventPayload.tentativeMaliciousSellWarning.injEq, reduceCtorEq, exists_false,
    or_false, false_or] at hpayload
  rw [hpayload, ← hclass]
  rfl

end announced

/-- A sell that repeats no pending one is announced by an intent and by a warning. -/
theorem mem_detect_of_new {self : TentativeSellManager} {event : NormalizedEvent}
    {payload : PumpSellEvent} (h : self.TakesSell event payload) (token : TokenState)
    (features : FeatureSnapshot) (risk : RiskAssessment)
    (position : Option OpenPositionContext)
    (hnew : self.duplicatePrimarySource
      (self.intentFor event payload token features position) = none) :
    cloneWithPayload event (.tentativeSellIntentDetected
        (self.intentFor event payload token features position)) ∈
        (self.detectTentativeSell event token features risk position).2 ∧
      cloneWithPayload event (.tentativeMaliciousSellWarning
        (warningOf (self.assessSell event payload token features position) event payload features
          risk)) ∈ (self.detectTentativeSell event token features risk position).2 := by
  have hnot : ¬ (event.info.canonicality ≠ .tentative ∨ ¬ self.earlyIntent.enabled = true) := by
    simp [h.tentative, h.enabled]
  unfold intentFor at hnew ⊢
  unfold detectTentativeSell
  simp only [h.payload, if_neg hnot, hnew]
  unfold trackSell
  simp only [List.cons_append]
  exact ⟨List.mem_cons_self, List.mem_cons_of_mem _ List.mem_cons_self⟩

end TentativeSellManager

/-! ## Stored sells -/

namespace StateEngine

/-- The tentative sell that the state holds as pending for a mint under an id. -/
def pendingSell (s : StateEngine) (mint : PubkeyValue) (id : String) :
    Option TentativeSellTracking :=
  (s.tokens.lookup mint.text).bind fun token =>
    token.shredDefense.pendingTentativeSells.lookup id

theorem pendingSell_eq (s : StateEngine) (mint : PubkeyValue) (id : String) :
    s.pendingSell mint id = (s.shredSignals mint.text).pendingTentativeSells.lookup id := by
  unfold pendingSell shredSignals
  cases s.tokens.lookup mint.text with
  | none => simp
  | some token => simp [TokenState.shredSignals]

/-- An intent is stored under its id, with the class that its text is parsed to. -/
theorem pendingSell_intent (s : StateEngine) {event : NormalizedEvent}
    {intent : TentativeSellIntentDetectedEvent}
    (hpayload : event.payload = .tentativeSellIntentDetected intent)
    (hreverted : event.info.canonicality ≠ .reverted) :
    ((s.applyEvent event).1.pendingSell intent.mint intent.eventId.uuid).map
        TentativeSellTracking.sellerClassification =
      some (parseSellerClassification intent.walletClassificationSnapshot) := by
  have hhandler : s.handler event = some fun token => token.applyTentativeSellIntent intent := by
    simp [handler, hpayload]
  have hmint : event.mint = some intent.mint := by
    simp [NormalizedEvent.mint, hpayload]
  rw [pendingSell_eq, shredSignals_applyEvent_of_handler hhandler hmint hreverted, if_pos rfl]
  simp only [TokenState.applyTentativeSellIntent, TokenState.shredSignals,
    TokenState.updateMemoryBytes, AList.lookup_insert, Option.map_some]

end StateEngine

namespace TentativeSellManager

/-- The stored class is the warned one exactly for the sellers whose class is spelled alike. -/
theorem stored_class_iff (self : TentativeSellManager) (event : NormalizedEvent)
    (sell : PumpSellEvent) (token : TokenState) (features : FeatureSnapshot)
    (risk : RiskAssessment) (position : Option OpenPositionContext) (state : StateEngine)
    (intentEvent warningEvent : NormalizedEvent) (intent : TentativeSellIntentDetectedEvent)
    (warning : TentativeMaliciousSellWarningEvent) (hsell : event.payload = .pumpSell sell)
    (hintentEvent :
      intentEvent ∈ (self.detectTentativeSell event token features risk position).2)
    (hintent : intentEvent.payload = .tentativeSellIntentDetected intent)
    (hwarningEvent :
      warningEvent ∈ (self.detectTentativeSell event token features risk position).2)
    (hwarning : warningEvent.payload = .tentativeMaliciousSellWarning warning) :
    (∃ tracking,
        (state.applyEvent intentEvent).1.pendingSell intent.mint intent.eventId.uuid =
          some tracking ∧
        tracking.sellerClassification = warning.sellerClassification) ↔
      SellerSpelledAlike token sell := by
  obtain ⟨htentative, hsnapshot⟩ := intent_of_mem_detect hintentEvent hsell hintent
  have hclass := warning_of_mem_detect hwarningEvent hsell hwarning
  have hstored := state.pendingSell_intent hintent (by simp [htentative])
  rw [← Option.map_eq_some_iff, hstored, Option.some.injEq, hsnapshot, hclass,
    DangerousSellerClassification.parse_lowercase_name_iff, sellerClass_spelledAlike_iff]

/-- A sell of ten tokens whose seller the decoder knows as a top holder, or does not. -/
def listedSell (isTopHolder : Bool) : PumpSellEvent :=
  { mint := ⟨"mint"⟩
    seller := ⟨"seller"⟩
    quoteOut := 1
    tokenIn := 10
    effectivePrice := 1
    isTopHolderPreSell := isTopHolder }

def listedSellEvent (isTopHolder : Bool) : NormalizedEvent :=
  { sampleSell "event" none .tentative unixEpoch with
    payload := .pumpSell (listedSell isTopHolder) }

theorem takesSell_listed (isTopHolder : Bool) :
    sampleManager.TakesSell (listedSellEvent isTopHolder) (listedSell isTopHolder) where
  payload := rfl
  tentative := rfl
  enabled := rfl

/-- What the manager returns for that sell on a new token. -/
def listedEvents (isTopHolder : Bool) : List NormalizedEvent :=
  (sampleManager.detectTentativeSell (listedSellEvent isTopHolder)
    (TokenState.new ⟨"mint"⟩ .deshredTentative) (DecisionEngine.qualityFeatures ⟨"mint"⟩ 1)
    (DecisionEngine.calmRisk "mint") none).2

/-- The intent among it. -/
def listedIntent (isTopHolder : Bool) : TentativeSellIntentDetectedEvent :=
  sampleManager.intentFor (listedSellEvent isTopHolder) (listedSell isTopHolder)
    (TokenState.new ⟨"mint"⟩ .deshredTentative) (DecisionEngine.qualityFeatures ⟨"mint"⟩ 1) none

/-- The warning among it. -/
def listedWarning (isTopHolder : Bool) : TentativeMaliciousSellWarningEvent :=
  warningOf (sampleManager.assessSell (listedSellEvent isTopHolder) (listedSell isTopHolder)
    (TokenState.new ⟨"mint"⟩ .deshredTentative) (DecisionEngine.qualityFeatures ⟨"mint"⟩ 1) none)
    (listedSellEvent isTopHolder) (listedSell isTopHolder)
    (DecisionEngine.qualityFeatures ⟨"mint"⟩ 1) (DecisionEngine.calmRisk "mint")

def listedIntentEvent (isTopHolder : Bool) : NormalizedEvent :=
  cloneWithPayload (listedSellEvent isTopHolder)
    (.tentativeSellIntentDetected (listedIntent isTopHolder))

def listedWarningEvent (isTopHolder : Bool) : NormalizedEvent :=
  cloneWithPayload (listedSellEvent isTopHolder)
    (.tentativeMaliciousSellWarning (listedWarning isTopHolder))

theorem mem_listedEvents (isTopHolder : Bool) :
    listedIntentEvent isTopHolder ∈ listedEvents isTopHolder ∧
      listedWarningEvent isTopHolder ∈ listedEvents isTopHolder :=
  mem_detect_of_new (takesSell_listed isTopHolder) _ _ _ none rfl

/-- The class of a seller that no list names is stored as it was warned of. -/
theorem stored_class_unlisted :
    ∃ tracking,
      ((StateEngine.new StateEngine.sampleTtl).applyEvent (listedIntentEvent false)).1.pendingSell
          (listedIntent false).mint (listedIntent false).eventId.uuid = some tracking ∧
        tracking.sellerClassification = (listedWarning false).sellerClassification := by
  obtain ⟨hintent, hwarning⟩ := mem_listedEvents false
  refine (stored_class_iff sampleManager (listedSellEvent false) (listedSell false) _ _ _ none
    (StateEngine.new StateEngine.sampleTtl) _ _ _ _ rfl hintent (cloneWithPayload_payload _ _)
    hwarning (cloneWithPayload_payload _ _)).mpr ?_
  refine ⟨?_, fun _ => Or.inr (Or.inr rfl)⟩
  exact fun entry hentry => nomatch hentry

/-- A top holder is warned of as one of the first three, and stored as unknown. -/
theorem stored_class_fails :
    ¬ ∀ (self : TentativeSellManager) (event : NormalizedEvent) (sell : PumpSellEvent)
        (token : TokenState) (features : FeatureSnapshot) (risk : RiskAssessment)
        (position : Option OpenPositionContext) (state : StateEngine)
        (intentEvent warningEvent : NormalizedEvent) (intent : TentativeSellIntentDetectedEvent)
        (warning : TentativeMaliciousSellWarningEvent), event.payload = .pumpSell sell →
      intentEvent ∈ (self.detectTentativeSell event token features risk position).2 →
      intentEvent.payload = .tentativeSellIntentDetected intent →
      warningEvent ∈ (self.detectTentativeSell event token features risk position).2 →
      warningEvent.payload = .tentativeMaliciousSellWarning warning →
      ∃ tracking,
        (state.applyEvent intentEvent).1.pendingSell intent.mint intent.eventId.uuid =
          some tracking ∧
        tracking.sellerClassification = warning.sellerClassification := by
  intro h
  obtain ⟨hintentEvent, hwarningEvent⟩ := mem_listedEvents true
  have hintent : (listedIntentEvent true).payload = .tentativeSellIntentDetected
    (listedIntent true) := cloneWithPayload_payload _ _
  have hwarning : (listedWarningEvent true).payload = .tentativeMaliciousSellWarning
    (listedWarning true) := cloneWithPayload_payload _ _
  obtain ⟨tracking, htracking, hclass⟩ := h sampleManager (listedSellEvent true)
    (listedSell true) _ _ _ none (StateEngine.new StateEngine.sampleTtl) _ _ _ _ rfl hintentEvent
    hintent hwarningEvent hwarning
  obtain ⟨htentative, hsnapshot⟩ := intent_of_mem_detect hintentEvent rfl hintent
  have hstored := (StateEngine.new StateEngine.sampleTtl).pendingSell_intent hintent
    (by simp [htentative])
  have hwarned := warning_of_mem_detect hwarningEvent rfl hwarning
  rw [htracking, Option.map_some, Option.some.injEq, hclass, hwarned, hsnapshot] at hstored
  have halike := (DangerousSellerClassification.parse_lowercase_name_iff _).mp hstored.symm
  have htop : sellerClass (TokenState.new ⟨"mint"⟩ .deshredTentative) (listedSell true) =
      .top3Holder := by decide +kernel
  rw [htop] at halike
  revert halike
  decide

end TentativeSellManager

end PumpLaunchTrader
