/-
KaniNetwork.Ledger.Search — searches over the lists of a ledger
(`kani-ledger`).

A search filters and then takes a page; negative limits and offsets count
as zero.
-/
import KaniNetwork.Base.Paging
import KaniNetwork.Types.Core

namespace KaniNetwork

structure BlockSearch where
  limit : Int
  offset : Int
  deriving DecidableEq, Repr

def BlockSearch.apply (search : BlockSearch) (blocks : List Block) : List Block :=
  page search.limit.toNat search.offset.toNat blocks

structure JournalEntrySearch where
  accountId : String
  asset : Option String
  limit : Int
  offset : Int
  deriving DecidableEq, Repr

namespace JournalEntrySearch

/-- `matches`, a keyword here. -/
def matchesEntry (search : JournalEntrySearch) (entry : JournalEntry) : Bool :=
  if entry.accountId ≠ search.accountId then false
  else
    match search.asset with
    | some asset => entry.asset = asset
    | none => true

def apply (search : JournalEntrySearch) (entries : List JournalEntry) : List JournalEntry :=
  page search.limit.toNat search.offset.toNat (entries.filter search.matchesEntry)

end JournalEntrySearch

structure AuditEventSearch where
  eventType : Option String
  decision : Option String
  institutionId : Option String
  createdFrom : Option DateTime
  createdTo : Option DateTime
  limit : Int
  offset : Int
  deriving DecidableEq, Repr

/-- `metadata_matches`. -/
def metadataMatches (event : AuditEvent) (key expected : String) : Bool :=
  match event.metadata.get key with
  | some value => value = expected
  | none => false

/-- `metadata_matches_ignore_case`. -/
def metadataMatchesIgnoreCase (event : AuditEvent) (key expected : String) : Bool :=
  match event.metadata.get key with
  | some value => eqIgnoreAsciiCase value expected
  | none => false

namespace AuditEventSearch

/-- `matches`, a keyword here. -/
def matchesEvent (search : AuditEventSearch) (event : AuditEvent) : Bool :=
  (search.eventType.all fun eventType => eqIgnoreAsciiCase event.eventType eventType)
    && (search.decision.all fun decision => metadataMatchesIgnoreCase event "decision" decision)
    && (search.institutionId.all fun institutionId =>
      metadataMatches event "institution_id" institutionId)
    && (search.createdFrom.all fun createdFrom => createdFrom ≤ event.createdAt)
    && (search.createdTo.all fun createdTo => event.createdAt ≤ createdTo)

def apply (search : AuditEventSearch) (events : List AuditEvent) : List AuditEvent :=
  page search.limit.toNat search.offset.toNat (events.filter search.matchesEvent)

end AuditEventSearch

end KaniNetwork
