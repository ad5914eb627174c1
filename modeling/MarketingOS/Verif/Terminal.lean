import MarketingOS.Verif.Approval

/-! # When a claimed proposal reaches a terminal status

The claim is committed before the operations are executed, so an exception that no part of the
approval handles leaves the proposal claimed for ever. The condition under which that does not
happen is found operation by operation, on the tables each of them meets. -/
namespace MarketingOS.ProposalService

section Loop

variable {env : Environment} {ticks : Nat → Tick} {user : User} {clientId proposalId : Uuid}

end Loop

variable {env : Environment} {ticks : Nat → Tick} {now : Timestamp} {user : User} {db : Database}
  {proposal : ChangeProposal}

end MarketingOS.ProposalService
