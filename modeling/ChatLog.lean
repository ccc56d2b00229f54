import ChatLog.Main
import ChatLog.Proofs.Condition
import ChatLog.Service
import ChatLog.Proofs.Answer
import ChatLog.Proofs.Wildcard
import ChatLog.Proofs.Shelf
import ChatLog.Proofs.Outline
import ChatLog.Proofs.Keys
import ChatLog.Proofs.Rows
import ChatLog.Proofs.Stages
import ChatLog.Proofs.Transparency
import ChatLog.Proofs.Secrecy
import ChatLog.Proofs.Request
import ChatLog.Proofs.Order
import ChatLog.Proofs.Failures
import ChatLog.Proofs.Effects
import ChatLog.Proofs.Emphasis
import ChatLog.Proofs.Permits
import ChatLog.Proofs.Narrowing
import ChatLog.Proofs.Calendar
import ChatLog.Proofs.Digits
import ChatLog.Proofs.StoredTime
import ChatLog.Proofs.Entries
import ChatLog.Proofs.Outcome
import ChatLog.Proofs.Chronology
import ChatLog.Proofs.Pages
import ChatLog.Proofs.Agreement
import ChatLog.Proofs.Accounts
import ChatLog.Proofs.Substring
import ChatLog.Proofs.Fence
import ChatLog.Proofs.Notice
import ChatLog.Proofs.Keeping
import ChatLog.Proofs.Intact
import ChatLog.Proofs.Upkeep
import ChatLog.Proofs.Refinement
import ChatLog.Proofs.Asterisks
import ChatLog.Proofs.Numerals
import ChatLog.Proofs.Pieces
import ChatLog.Proofs.Grammar
import ChatLog.Proofs.Resolution
import ChatLog.Proofs.Windows
import ChatLog.Proofs.Script
import ChatLog.Proofs.Links
import ChatLog.Proofs.Passes
import ChatLog.Proofs.Groups
import ChatLog.Proofs.Surplus
import ChatLog.Proofs.Arrival
import ChatLog.Proofs.Stamps
import ChatLog.Proofs.Mentions
