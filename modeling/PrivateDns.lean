import PrivateDns.Compare
import PrivateDns.OrderedMap
import PrivateDns.Status
import PrivateDns.ServerIdentity
import PrivateDns.DohProvider
import PrivateDns.MetricsListener
import PrivateDns.ListenerInterleaving
import PrivateDns.TestAddresses
import PrivateDns.StatsCheck
