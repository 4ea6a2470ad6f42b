import PumpLaunchTrader.Lib.KeyedMap
import PumpLaunchTrader.Lib.Encoding
import PumpLaunchTrader.Model.Event
import Mathlib.Data.Finset.Sort
import Mathlib.Data.List.Destutter

/-! # Wallets, funding and clusters (`state::WalletSummary`, `FundingGraph`, `ClusterIndex`) -/

namespace PumpLaunchTrader

structure WalletSummary where
  wallet : String
  firstSeen : Option OffsetDateTime := none
  lastSeen : Option OffsetDateTime := none
  tokensBought : KeyedMap String Decimal := ∅
  tokensSold : KeyedMap String Decimal := ∅
  creatorLaunches : ℕ := 0
  clusterId : Option String := none

/-! ## Funding graph -/

structure FundingEdge where
  wallet : String
  funder : String
  amount : Decimal
  lastSeen : OffsetDateTime
  count : ℕ
  deriving DecidableEq

structure FundingGraph where
  edges : KeyedMap (String × String) FundingEdge := ∅
  funderToWallets : KeyedMap String (Finset String) := ∅

namespace FundingGraph

def walletsForFunder (self : FundingGraph) (funder : String) : Finset String :=
  (self.funderToWallets.lookup funder).getD ∅

/-- `FundingGraph::apply`, with the pairs of wallets that now share the funder. -/
def apply (self : FundingGraph) (event : WalletFundingEvent) (observedAt : OffsetDateTime) :
    FundingGraph × List (String × String) :=
  let edge : FundingEdge :=
    { wallet := event.wallet.text
      funder := event.funder.text
      amount := 0
      lastSeen := unixEpoch
      count := 0 }
  let wallets := self.walletsForFunder event.funder.text
  let related := ((wallets.erase event.wallet.text).sort (· ≤ ·)).map fun wallet =>
    (wallet, event.wallet.text)
  ({ edges := self.edges.upsert (event.funder.text, event.wallet.text) edge fun edge =>
      { edge with
        amount := edge.amount + event.amount
        lastSeen := observedAt
        count := edge.count + 1 }
     funderToWallets :=
      self.funderToWallets.insert event.funder.text (insert event.wallet.text wallets) },
    related)

end FundingGraph

/-! ## Cluster index -/

structure ClusterEvidenceSummary where
  sameFunderEdges : ℕ := 0
  samePayerEdges : ℕ := 0
  sharedCreatorEdges : ℕ := 0
  confidence : Decimal := 0
  deriving DecidableEq

structure ClusterIndex where
  edges : KeyedMap (String × String) ClusterEvidenceSummary := ∅
  walletNeighbors : KeyedMap String (Finset String) := ∅
  sameFunderWallets : Finset String := ∅

def normalizePair (left right : String) : String × String :=
  if left ≤ right then (left, right) else (right, left)

namespace ClusterIndex

def recordNeighbors (self : ClusterIndex) (left right : String) : ClusterIndex :=
  if left = right then self
  else
    { self with
      walletNeighbors :=
        (self.walletNeighbors.upsert left ∅ (insert right)).upsert right ∅ (insert left) }

def recordSameFunder (self : ClusterIndex) (left right : String) : ClusterIndex :=
  let self := { self with
    edges := self.edges.upsert (normalizePair left right) {} fun entry =>
      { entry with
        sameFunderEdges := entry.sameFunderEdges + 1
        confidence := entry.confidence + 10 / 100 } }
  let self := self.recordNeighbors left right
  { self with sameFunderWallets := insert right (insert left self.sameFunderWallets) }

def recordSamePayer (self : ClusterIndex) (left right : String) : ClusterIndex :=
  let self := { self with
    edges := self.edges.upsert (normalizePair left right) {} fun entry =>
      { entry with
        samePayerEdges := entry.samePayerEdges + 1
        confidence := entry.confidence + 15 / 100 } }
  self.recordNeighbors left right

/-- The other ends of the edges of a wallet, found by scanning every edge. -/
def scannedNeighbors (self : ClusterIndex) (wallet : String) : List String :=
  self.edges.entries.filterMap fun e =>
    if e.2.confidence ≤ 0 then none
    else if e.1.1 = wallet then some e.1.2
    else if e.1.2 = wallet then some e.1.1
    else none

/-- The neighbours of a wallet: the cached ones, or a scan when it has no cache entry. -/
def neighborsOf (self : ClusterIndex) (wallet : String) : List String :=
  match self.walletNeighbors.lookup wallet with
  | some neighbors => neighbors.sort (· ≤ ·)
  | none => self.scannedNeighbors wallet

def clusterIdFor (self : ClusterIndex) (wallet : String) : Option String :=
  let members := ((wallet :: self.neighborsOf wallet).insertionSort (· ≤ ·)).destutter (· ≠ ·)
  if 1 < members.length then
    some ("cluster-" ++ String.ofList ((Sha256.hexDigest ("|".intercalate members)).toList.take 12))
  else none

def relatedWallets (self : ClusterIndex) (wallet : String) : Finset String :=
  insert wallet (self.neighborsOf wallet).toFinset

def walletHasSameFunderCluster (self : ClusterIndex) (wallet : String) : Bool :=
  if self.sameFunderWallets = ∅ then
    self.edges.entries.any fun e =>
      (e.1.1 = wallet ∨ e.1.2 = wallet) ∧ 0 < e.2.sameFunderEdges
  else wallet ∈ self.sameFunderWallets

end ClusterIndex

end PumpLaunchTrader
