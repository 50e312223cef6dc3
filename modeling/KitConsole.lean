import KitConsole.Main
import KitConsole.Proofs.Classification
import KitConsole.Proofs.Grammar
import KitConsole.Proofs.OfflineCreation
import KitConsole.Proofs.Rejection
import KitConsole.Proofs.Saves
import KitConsole.Proofs.TokenSecrecy
import KitConsole.Proofs.UsableSettings
import KitConsole.Proofs.StatusHint
import KitConsole.Proofs.Termination
import KitConsole.Proofs.EndOfInput
import KitConsole.Proofs.StoreHistory
import KitConsole.Proofs.RetryLaw
import KitConsole.Proofs.TransportHint
import KitConsole.Proofs.AllOrNothing
import KitConsole.Proofs.Moments
import KitConsole.Proofs.StackDiscipline
import KitConsole.Proofs.Inert
import KitConsole.Proofs.FailedCalls
import KitConsole.Proofs.Updates
import KitConsole.Proofs.BlankAnswers
import KitConsole.Proofs.StatusCodes
import KitConsole.Proofs.Flattening
import KitConsole.Proofs.Addresses
import KitConsole.Proofs.LevelRequest
import KitConsole.Proofs.AnswerPlaces
import KitConsole.Proofs.DomainLists
import KitConsole.Proofs.MenuAnswers
import KitConsole.Proofs.LevelGrammar
