import ChatPanel.Text.Blank
import ChatPanel.Text.Lines
import ChatPanel.Text.Combining
import ChatPanel.Text.Quoted
import ChatPanel.Numeric.Binary64
import ChatPanel.Numeric.Shortest
import ChatPanel.Json.Fault
import ChatPanel.Json.Scan
import ChatPanel.Json.Text
import ChatPanel.Json.Numeral
import ChatPanel.Json.Value
import ChatPanel.Json.Record
import ChatPanel.Exchange
import ChatPanel.Settings
import ChatPanel.Conversation
import ChatPanel.Courier
import ChatPanel.Disclaimer
import ChatPanel.Storage
import ChatPanel.Visit
import ChatPanel.Markup
import ChatPanel.View.Controls
import ChatPanel.View.Page
import ChatPanel.Text.Spans
import ChatPanel.Proofs.Outbox
import ChatPanel.Proofs.Outbox.Outstanding
import ChatPanel.Proofs.Outbox.Trimming
import ChatPanel.Proofs.Conversation.Steps
import ChatPanel.Proofs.Conversation.Delivery
import ChatPanel.Proofs.Conversation.Entries
import ChatPanel.Proofs.Conversation.Turns
import ChatPanel.Proofs.Conversation.Replies
import ChatPanel.Proofs.Conversation.Reports
import ChatPanel.Proofs.Conversation.Independence
import ChatPanel.Proofs.Markup
import ChatPanel.Proofs.View.Transcript
import ChatPanel.Proofs.View.Page
import ChatPanel.Proofs.Text.Blank
import ChatPanel.Proofs.Text.Lines
import ChatPanel.Proofs.Text.Spans
import ChatPanel.Proofs.Courier
import ChatPanel.Proofs.Courier.Calls
import ChatPanel.Proofs.Json.Grammar
import ChatPanel.Proofs.Json.Strings
import ChatPanel.Proofs.Json.Encode
import ChatPanel.Proofs.Json.Numerals
import ChatPanel.Proofs.Json.Layout
import ChatPanel.Proofs.Json.Values
import ChatPanel.Proofs.Numeric.Binary64
import ChatPanel.Proofs.Json.Magnitude
import ChatPanel.Proofs.Json.Held
import ChatPanel.Proofs.Json.Fields
import ChatPanel.Proofs.Json.Records
import ChatPanel.Proofs.Json.Accepted.Tokens
import ChatPanel.Proofs.Json.Accepted.Records
import ChatPanel.Proofs.Json.Extended.Tokens
import ChatPanel.Proofs.Json.Extended.Records
import ChatPanel.Proofs.Json.Members
import ChatPanel.Proofs.Json.Lists
import ChatPanel.Proofs.Exchange
import ChatPanel.Proofs.Exchange.OtherTypes
import ChatPanel.Proofs.Exchange.RoundTrip
import ChatPanel.Proofs.Exchange.Spellings
import ChatPanel.Proofs.Settings
import ChatPanel.Proofs.OtherTexts
import ChatPanel.Proofs.WholeTexts
import ChatPanel.Proofs.Visit.Preferences
import ChatPanel.Proofs.Visit.Disclaimer
