import DesfireSdk.Interaction.Program
import DesfireSdk.Foundation.Bytes
import DesfireSdk.Foundation.Environment
import DesfireSdk.Native.Raw.Codec
import DesfireSdk.Native.Raw.Channel
import DesfireSdk.Native.Raw.Frames
import DesfireSdk.Native.Raw.Chaining
import DesfireSdk.Native.Raw.Evidence
import DesfireSdk.Interaction.Padding
import DesfireSdk.Security.Ev2.Session
import DesfireSdk.Security.Ev2.Steps
import DesfireSdk.Foundation.Primitives
import DesfireSdk.Model.Communication
import DesfireSdk.Security.StandardAes.Session
import DesfireSdk.Security.StandardAes.Steps
import DesfireSdk.Native.Secure.Exchange
import DesfireSdk.Security.Ev2.Evaluation
import DesfireSdk.Security.Ev2.Peer
import DesfireSdk.Security.Ev2.Interoperation
import DesfireSdk.Native.Secure.Evidence
import DesfireSdk.Foundation.Calm
import DesfireSdk.Native.Raw.Calm
import DesfireSdk.Native.Secure.Mismatch
import DesfireSdk.Model.Settings
import DesfireSdk.Native.Checked.Command
import DesfireSdk.Native.Checked.Responses
import DesfireSdk.Native.Checked.Builders
import DesfireSdk.Security.Nonces
import DesfireSdk.Security.Ev2.Authentication
import DesfireSdk.Security.StandardAes.Authentication
import DesfireSdk.Iso7816.Raw
import DesfireSdk.Iso7816.Checked
import DesfireSdk.Iso7816.Session
import DesfireSdk.Managed.Card
import DesfireSdk.Managed.Discovery
import DesfireSdk.Managed.Authentication
import DesfireSdk.Managed.Iso7816
import DesfireSdk.Managed.Transactions
import DesfireSdk.Managed.Operation
import DesfireSdk.Native.Secure.Cases
import DesfireSdk.Managed.Execution
import DesfireSdk.Managed.Invariant
import DesfireSdk.Iso7816.Steps
import DesfireSdk.Managed.Rules
import DesfireSdk.Managed.NativeSettled
import DesfireSdk.Managed.AuthenticationSettled
import DesfireSdk.Managed.IsoSettled
import DesfireSdk.Managed.TransactionSettled
import DesfireSdk.Interaction.Runs
import DesfireSdk.Managed.Runs
import DesfireSdk.Native.Raw.Transactions
import DesfireSdk.Native.Raw.Uploads
import DesfireSdk.Native.Secure.Rejections
import DesfireSdk.Managed.Rejections
import DesfireSdk.Native.Raw.Completion
import DesfireSdk.Iso7816.Evidence
import DesfireSdk.Managed.Gate
import DesfireSdk.Foundation.Generation
import DesfireSdk.Security.StandardAes.Chain
import DesfireSdk.Iso7816.Executions
import DesfireSdk.Managed.Generations
import DesfireSdk.Security.StandardAes.Peer
import DesfireSdk.Security.StandardAes.Interoperation
import DesfireSdk.Native.Checked.Protection
import DesfireSdk.Managed.Shelter
import DesfireSdk.Managed.Evidence
import DesfireSdk.Managed.Safety
import DesfireSdk.Native.Secure.Authenticity
import DesfireSdk.Managed.Truthfulness
import DesfireSdk.CApi.Accounting
import DesfireSdk.CApi.RegistrySafety
import DesfireSdk.Foundation.Fields
import DesfireSdk.Native.Checked.SettingsGrammar
import DesfireSdk.Security.Ev2.Acceptance
import DesfireSdk.Security.StandardAes.Search
import DesfireSdk.Security.CmacAgreement
import DesfireSdk.Iso7816.Chaining
import DesfireSdk.Managed.Finishing
import DesfireSdk.Managed.KeyResolution
import DesfireSdk.Managed.Atomicity
import DesfireSdk.Managed.Commits
import DesfireSdk.Managed.Attempts
import DesfireSdk.CApi.SecureCommand
import DesfireSdk.Managed.Counters
import DesfireSdk.Iso7816.CommandCases
import DesfireSdk.Managed.IdentifierLists
import DesfireSdk.Offline.Authorization
import DesfireSdk.Offline.Delegation
import DesfireSdk.Security.KeyChange
import DesfireSdk.Interaction.Comparison
import DesfireSdk.Native.Raw.Bounds
import DesfireSdk.Native.Secure.Bounds
import DesfireSdk.Foundation.Clock
import DesfireSdk.Native.Raw.Deadlines
import DesfireSdk.Native.Secure.Deadlines
import DesfireSdk.Managed.Timing
import DesfireSdk.Managed.Deadlines
import DesfireSdk.Python.AsyncCard
import DesfireSdk.Python.Cancellation
import DesfireSdk.Interaction.Machine
import DesfireSdk.Foundation.Interruptions
import DesfireSdk.Native.Raw.Cards
import DesfireSdk.Native.Raw.Links
import DesfireSdk.Native.Secure.Dialogues
import DesfireSdk.Native.Secure.Services
import DesfireSdk.Native.Secure.Logins
import DesfireSdk.Native.Secure.Authentications
import DesfireSdk.Native.Secure.Interruptions
import DesfireSdk.Managed.Sessions
import DesfireSdk.Managed.Visits
import DesfireSdk.Security.Handshake
import DesfireSdk.Iso7816.Handshake
import DesfireSdk.Security.SessionKeys
import DesfireSdk.Iso7816.Cards
import DesfireSdk.Iso7816.Logins
import DesfireSdk.Iso7816.Interruptions
import DesfireSdk.Security.MutualAuthentication
import DesfireSdk.CApi.Descriptors
import DesfireSdk.CApi.RawChannel
import DesfireSdk.CApi.RawLifecycle
import DesfireSdk.Foundation.Glances
import DesfireSdk.Native.Secure.Anchored
import DesfireSdk.CApi.GenerationBinding
import DesfireSdk.Foundation.Determined
import DesfireSdk.Native.Determined
import DesfireSdk.Managed.Determined
import DesfireSdk.Interaction.Drivers
import DesfireSdk.Transports.Transport
import DesfireSdk.Transports.Pcsc
import DesfireSdk.Transports.Readers
import DesfireSdk.Transports.Engine
import DesfireSdk.Transports.Callback
import DesfireSdk.CApi.Transports
import DesfireSdk.Transports.Replay
import DesfireSdk.Managed.Methods
