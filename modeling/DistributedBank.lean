import DistributedBank.Wire.Bytes
import DistributedBank.Double
import DistributedBank.Double.Order
import DistributedBank.Wire.Fields
import DistributedBank.Wire.Message
import DistributedBank.Server.Bank
import DistributedBank.Server.Dispatch
import DistributedBank.Server.Loop
import DistributedBank.Server.Retries
import DistributedBank.Server.ClosedAccounts
import DistributedBank.Server.Ledger
import DistributedBank.Server.Debits
import DistributedBank.Server.Basic
import DistributedBank.Server.Records
import DistributedBank.Client.Call
import DistributedBank.Client.Handlers
import DistributedBank.Client.Replies
import DistributedBank.Server.Cache
import DistributedBank.RoundTrip
