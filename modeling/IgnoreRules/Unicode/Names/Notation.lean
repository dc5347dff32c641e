/-!
# Character names: ideographic components, musical and mathematical notation, from U+17000 to U+1E7FF

The names of version 14 of the Unicode standard, in the packed form that
`Unicode.readNames` describes.
-/

namespace IgnoreRules.Unicode

/-- The packed names of ideographic components, musical and mathematical notation, from U+17000 to U+1E7FF. -/
def notationNames : String :=
  "18800=TANGUT COMPONENT-001;aCOMPONENT-002;aCOMPONENT-003;aCOMPONENT-004;aCOMPONENT-005;
aCOMPONENT-006;aCOMPONENT-007;aCOMPONENT-008;aCOMPONENT-009;aCOMPONENT-010;aCOMPONENT-011;
aCOMPONENT-012;aCOMPONENT-013;aCOMPONENT-014;aCOMPONENT-015;aCOMPONENT-016;aCOMPONENT-017;
aCOMPONENT-018;aCOMPONENT-019;aCOMPONENT-020;aCOMPONENT-021;aCOMPONENT-022;aCOMPONENT-023;
aCOMPONENT-024;aCOMPONENT-025;aCOMPONENT-026;aCOMPONENT-027;aCOMPONENT-028;aCOMPONENT-029;
aCOMPONENT-030;aCOMPONENT-031;aCOMPONENT-032;aCOMPONENT-033;aCOMPONENT-034;aCOMPONENT-035;
aCOMPONENT-036;aCOMPONENT-037;aCOMPONENT-038;aCOMPONENT-039;aCOMPONENT-040;aCOMPONENT-041;
aCOMPONENT-042;aCOMPONENT-043;aCOMPONENT-044;aCOMPONENT-045;aCOMPONENT-046;aCOMPONENT-047;
aCOMPONENT-048;aCOMPONENT-049;aCOMPONENT-050;aCOMPONENT-051;aCOMPONENT-052;aCOMPONENT-053;
aCOMPONENT-054;aCOMPONENT-055;aCOMPONENT-056;aCOMPONENT-057;aCOMPONENT-058;aCOMPONENT-059;
aCOMPONENT-060;aCOMPONENT-061;aCOMPONENT-062;aCOMPONENT-063;aCOMPONENT-064;aCOMPONENT-065;
aCOMPONENT-066;aCOMPONENT-067;aCOMPONENT-068;aCOMPONENT-069;aCOMPONENT-070;aCOMPONENT-071;
aCOMPONENT-072;aCOMPONENT-073;aCOMPONENT-074;aCOMPONENT-075;aCOMPONENT-076;aCOMPONENT-077;
aCOMPONENT-078;aCOMPONENT-079;aCOMPONENT-080;aCOMPONENT-081;aCOMPONENT-082;aCOMPONENT-083;
aCOMPONENT-084;aCOMPONENT-085;aCOMPONENT-086;aCOMPONENT-087;aCOMPONENT-088;aCOMPONENT-089;
aCOMPONENT-090;aCOMPONENT-091;aCOMPONENT-092;aCOMPONENT-093;aCOMPONENT-094;aCOMPONENT-095;
aCOMPONENT-096;aCOMPONENT-097;aCOMPONENT-098;aCOMPONENT-099;aCOMPONENT-100;aCOMPONENT-101;
aCOMPONENT-102;aCOMPONENT-103;aCOMPONENT-104;aCOMPONENT-105;aCOMPONENT-106;aCOMPONENT-107;
aCOMPONENT-108;aCOMPONENT-109;aCOMPONENT-110;aCOMPONENT-111;aCOMPONENT-112;aCOMPONENT-113;
aCOMPONENT-114;aCOMPONENT-115;aCOMPONENT-116;aCOMPONENT-117;aCOMPONENT-118;aCOMPONENT-119;
aCOMPONENT-120;aCOMPONENT-121;aCOMPONENT-122;aCOMPONENT-123;aCOMPONENT-124;aCOMPONENT-125;
aCOMPONENT-126;aCOMPONENT-127;aCOMPONENT-128;aCOMPONENT-129;aCOMPONENT-130;aCOMPONENT-131;
aCOMPONENT-132;aCOMPONENT-133;aCOMPONENT-134;aCOMPONENT-135;aCOMPONENT-136;aCOMPONENT-137;
aCOMPONENT-138;aCOMPONENT-139;aCOMPONENT-140;aCOMPONENT-141;aCOMPONENT-142;aCOMPONENT-143;
aCOMPONENT-144;aCOMPONENT-145;aCOMPONENT-146;aCOMPONENT-147;aCOMPONENT-148;aCOMPONENT-149;
aCOMPONENT-150;aCOMPONENT-151;aCOMPONENT-152;aCOMPONENT-153;aCOMPONENT-154;aCOMPONENT-155;
aCOMPONENT-156;aCOMPONENT-157;aCOMPONENT-158;aCOMPONENT-159;aCOMPONENT-160;aCOMPONENT-161;
aCOMPONENT-162;aCOMPONENT-163;aCOMPONENT-164;aCOMPONENT-165;aCOMPONENT-166;aCOMPONENT-167;
aCOMPONENT-168;aCOMPONENT-169;aCOMPONENT-170;aCOMPONENT-171;aCOMPONENT-172;aCOMPONENT-173;
aCOMPONENT-174;aCOMPONENT-175;aCOMPONENT-176;aCOMPONENT-177;aCOMPONENT-178;aCOMPONENT-179;
aCOMPONENT-180;aCOMPONENT-181;aCOMPONENT-182;aCOMPONENT-183;aCOMPONENT-184;aCOMPONENT-185;
aCOMPONENT-186;aCOMPONENT-187;aCOMPONENT-188;aCOMPONENT-189;aCOMPONENT-190;aCOMPONENT-191;
aCOMPONENT-192;aCOMPONENT-193;aCOMPONENT-194;aCOMPONENT-195;aCOMPONENT-196;aCOMPONENT-197;
aCOMPONENT-198;aCOMPONENT-199;aCOMPONENT-200;aCOMPONENT-201;aCOMPONENT-202;aCOMPONENT-203;
aCOMPONENT-204;aCOMPONENT-205;aCOMPONENT-206;aCOMPONENT-207;aCOMPONENT-208;aCOMPONENT-209;
aCOMPONENT-210;aCOMPONENT-211;aCOMPONENT-212;aCOMPONENT-213;aCOMPONENT-214;aCOMPONENT-215;
aCOMPONENT-216;aCOMPONENT-217;aCOMPONENT-218;aCOMPONENT-219;aCOMPONENT-220;aCOMPONENT-221;
aCOMPONENT-222;aCOMPONENT-223;aCOMPONENT-224;aCOMPONENT-225;aCOMPONENT-226;aCOMPONENT-227;
aCOMPONENT-228;aCOMPONENT-229;aCOMPONENT-230;aCOMPONENT-231;aCOMPONENT-232;aCOMPONENT-233;
aCOMPONENT-234;aCOMPONENT-235;aCOMPONENT-236;aCOMPONENT-237;aCOMPONENT-238;aCOMPONENT-239;
aCOMPONENT-240;aCOMPONENT-241;aCOMPONENT-242;aCOMPONENT-243;aCOMPONENT-244;aCOMPONENT-245;
aCOMPONENT-246;aCOMPONENT-247;aCOMPONENT-248;aCOMPONENT-249;aCOMPONENT-250;aCOMPONENT-251;
aCOMPONENT-252;aCOMPONENT-253;aCOMPONENT-254;aCOMPONENT-255;aCOMPONENT-256;aCOMPONENT-257;
aCOMPONENT-258;aCOMPONENT-259;aCOMPONENT-260;aCOMPONENT-261;aCOMPONENT-262;aCOMPONENT-263;
aCOMPONENT-264;aCOMPONENT-265;aCOMPONENT-266;aCOMPONENT-267;aCOMPONENT-268;aCOMPONENT-269;
aCOMPONENT-270;aCOMPONENT-271;aCOMPONENT-272;aCOMPONENT-273;aCOMPONENT-274;aCOMPONENT-275;
aCOMPONENT-276;aCOMPONENT-277;aCOMPONENT-278;aCOMPONENT-279;aCOMPONENT-280;aCOMPONENT-281;
aCOMPONENT-282;aCOMPONENT-283;aCOMPONENT-284;aCOMPONENT-285;aCOMPONENT-286;aCOMPONENT-287;
aCOMPONENT-288;aCOMPONENT-289;aCOMPONENT-290;aCOMPONENT-291;aCOMPONENT-292;aCOMPONENT-293;
aCOMPONENT-294;aCOMPONENT-295;aCOMPONENT-296;aCOMPONENT-297;aCOMPONENT-298;aCOMPONENT-299;
aCOMPONENT-300;aCOMPONENT-301;aCOMPONENT-302;aCOMPONENT-303;aCOMPONENT-304;aCOMPONENT-305;
aCOMPONENT-306;aCOMPONENT-307;aCOMPONENT-308;aCOMPONENT-309;aCOMPONENT-310;aCOMPONENT-311;
aCOMPONENT-312;aCOMPONENT-313;aCOMPONENT-314;aCOMPONENT-315;aCOMPONENT-316;aCOMPONENT-317;
aCOMPONENT-318;aCOMPONENT-319;aCOMPONENT-320;aCOMPONENT-321;aCOMPONENT-322;aCOMPONENT-323;
aCOMPONENT-324;aCOMPONENT-325;aCOMPONENT-326;aCOMPONENT-327;aCOMPONENT-328;aCOMPONENT-329;
aCOMPONENT-330;aCOMPONENT-331;aCOMPONENT-332;aCOMPONENT-333;aCOMPONENT-334;aCOMPONENT-335;
aCOMPONENT-336;aCOMPONENT-337;aCOMPONENT-338;aCOMPONENT-339;aCOMPONENT-340;aCOMPONENT-341;
aCOMPONENT-342;aCOMPONENT-343;aCOMPONENT-344;aCOMPONENT-345;aCOMPONENT-346;aCOMPONENT-347;
aCOMPONENT-348;aCOMPONENT-349;aCOMPONENT-350;aCOMPONENT-351;aCOMPONENT-352;aCOMPONENT-353;
aCOMPONENT-354;aCOMPONENT-355;aCOMPONENT-356;aCOMPONENT-357;aCOMPONENT-358;aCOMPONENT-359;
aCOMPONENT-360;aCOMPONENT-361;aCOMPONENT-362;aCOMPONENT-363;aCOMPONENT-364;aCOMPONENT-365;
aCOMPONENT-366;aCOMPONENT-367;aCOMPONENT-368;aCOMPONENT-369;aCOMPONENT-370;aCOMPONENT-371;
aCOMPONENT-372;aCOMPONENT-373;aCOMPONENT-374;aCOMPONENT-375;aCOMPONENT-376;aCOMPONENT-377;
aCOMPONENT-378;aCOMPONENT-379;aCOMPONENT-380;aCOMPONENT-381;aCOMPONENT-382;aCOMPONENT-383;
aCOMPONENT-384;aCOMPONENT-385;aCOMPONENT-386;aCOMPONENT-387;aCOMPONENT-388;aCOMPONENT-389;
aCOMPONENT-390;aCOMPONENT-391;aCOMPONENT-392;aCOMPONENT-393;aCOMPONENT-394;aCOMPONENT-395;
aCOMPONENT-396;aCOMPONENT-397;aCOMPONENT-398;aCOMPONENT-399;aCOMPONENT-400;aCOMPONENT-401;
aCOMPONENT-402;aCOMPONENT-403;aCOMPONENT-404;aCOMPONENT-405;aCOMPONENT-406;aCOMPONENT-407;
aCOMPONENT-408;aCOMPONENT-409;aCOMPONENT-410;aCOMPONENT-411;aCOMPONENT-412;aCOMPONENT-413;
aCOMPONENT-414;aCOMPONENT-415;aCOMPONENT-416;aCOMPONENT-417;aCOMPONENT-418;aCOMPONENT-419;
aCOMPONENT-420;aCOMPONENT-421;aCOMPONENT-422;aCOMPONENT-423;aCOMPONENT-424;aCOMPONENT-425;
aCOMPONENT-426;aCOMPONENT-427;aCOMPONENT-428;aCOMPONENT-429;aCOMPONENT-430;aCOMPONENT-431;
aCOMPONENT-432;aCOMPONENT-433;aCOMPONENT-434;aCOMPONENT-435;aCOMPONENT-436;aCOMPONENT-437;
aCOMPONENT-438;aCOMPONENT-439;aCOMPONENT-440;aCOMPONENT-441;aCOMPONENT-442;aCOMPONENT-443;
aCOMPONENT-444;aCOMPONENT-445;aCOMPONENT-446;aCOMPONENT-447;aCOMPONENT-448;aCOMPONENT-449;
aCOMPONENT-450;aCOMPONENT-451;aCOMPONENT-452;aCOMPONENT-453;aCOMPONENT-454;aCOMPONENT-455;
aCOMPONENT-456;aCOMPONENT-457;aCOMPONENT-458;aCOMPONENT-459;aCOMPONENT-460;aCOMPONENT-461;
aCOMPONENT-462;aCOMPONENT-463;aCOMPONENT-464;aCOMPONENT-465;aCOMPONENT-466;aCOMPONENT-467;
aCOMPONENT-468;aCOMPONENT-469;aCOMPONENT-470;aCOMPONENT-471;aCOMPONENT-472;aCOMPONENT-473;
aCOMPONENT-474;aCOMPONENT-475;aCOMPONENT-476;aCOMPONENT-477;aCOMPONENT-478;aCOMPONENT-479;
aCOMPONENT-480;aCOMPONENT-481;aCOMPONENT-482;aCOMPONENT-483;aCOMPONENT-484;aCOMPONENT-485;
aCOMPONENT-486;aCOMPONENT-487;aCOMPONENT-488;aCOMPONENT-489;aCOMPONENT-490;aCOMPONENT-491;
aCOMPONENT-492;aCOMPONENT-493;aCOMPONENT-494;aCOMPONENT-495;aCOMPONENT-496;aCOMPONENT-497;
aCOMPONENT-498;aCOMPONENT-499;aCOMPONENT-500;aCOMPONENT-501;aCOMPONENT-502;aCOMPONENT-503;
aCOMPONENT-504;aCOMPONENT-505;aCOMPONENT-506;aCOMPONENT-507;aCOMPONENT-508;aCOMPONENT-509;
aCOMPONENT-510;aCOMPONENT-511;aCOMPONENT-512;aCOMPONENT-513;aCOMPONENT-514;aCOMPONENT-515;
aCOMPONENT-516;aCOMPONENT-517;aCOMPONENT-518;aCOMPONENT-519;aCOMPONENT-520;aCOMPONENT-521;
aCOMPONENT-522;aCOMPONENT-523;aCOMPONENT-524;aCOMPONENT-525;aCOMPONENT-526;aCOMPONENT-527;
aCOMPONENT-528;aCOMPONENT-529;aCOMPONENT-530;aCOMPONENT-531;aCOMPONENT-532;aCOMPONENT-533;
aCOMPONENT-534;aCOMPONENT-535;aCOMPONENT-536;aCOMPONENT-537;aCOMPONENT-538;aCOMPONENT-539;
aCOMPONENT-540;aCOMPONENT-541;aCOMPONENT-542;aCOMPONENT-543;aCOMPONENT-544;aCOMPONENT-545;
aCOMPONENT-546;aCOMPONENT-547;aCOMPONENT-548;aCOMPONENT-549;aCOMPONENT-550;aCOMPONENT-551;
aCOMPONENT-552;aCOMPONENT-553;aCOMPONENT-554;aCOMPONENT-555;aCOMPONENT-556;aCOMPONENT-557;
aCOMPONENT-558;aCOMPONENT-559;aCOMPONENT-560;aCOMPONENT-561;aCOMPONENT-562;aCOMPONENT-563;
aCOMPONENT-564;aCOMPONENT-565;aCOMPONENT-566;aCOMPONENT-567;aCOMPONENT-568;aCOMPONENT-569;
aCOMPONENT-570;aCOMPONENT-571;aCOMPONENT-572;aCOMPONENT-573;aCOMPONENT-574;aCOMPONENT-575;
aCOMPONENT-576;aCOMPONENT-577;aCOMPONENT-578;aCOMPONENT-579;aCOMPONENT-580;aCOMPONENT-581;
aCOMPONENT-582;aCOMPONENT-583;aCOMPONENT-584;aCOMPONENT-585;aCOMPONENT-586;aCOMPONENT-587;
aCOMPONENT-588;aCOMPONENT-589;aCOMPONENT-590;aCOMPONENT-591;aCOMPONENT-592;aCOMPONENT-593;
aCOMPONENT-594;aCOMPONENT-595;aCOMPONENT-596;aCOMPONENT-597;aCOMPONENT-598;aCOMPONENT-599;
aCOMPONENT-600;aCOMPONENT-601;aCOMPONENT-602;aCOMPONENT-603;aCOMPONENT-604;aCOMPONENT-605;
aCOMPONENT-606;aCOMPONENT-607;aCOMPONENT-608;aCOMPONENT-609;aCOMPONENT-610;aCOMPONENT-611;
aCOMPONENT-612;aCOMPONENT-613;aCOMPONENT-614;aCOMPONENT-615;aCOMPONENT-616;aCOMPONENT-617;
aCOMPONENT-618;aCOMPONENT-619;aCOMPONENT-620;aCOMPONENT-621;aCOMPONENT-622;aCOMPONENT-623;
aCOMPONENT-624;aCOMPONENT-625;aCOMPONENT-626;aCOMPONENT-627;aCOMPONENT-628;aCOMPONENT-629;
aCOMPONENT-630;aCOMPONENT-631;aCOMPONENT-632;aCOMPONENT-633;aCOMPONENT-634;aCOMPONENT-635;
aCOMPONENT-636;aCOMPONENT-637;aCOMPONENT-638;aCOMPONENT-639;aCOMPONENT-640;aCOMPONENT-641;
aCOMPONENT-642;aCOMPONENT-643;aCOMPONENT-644;aCOMPONENT-645;aCOMPONENT-646;aCOMPONENT-647;
aCOMPONENT-648;aCOMPONENT-649;aCOMPONENT-650;aCOMPONENT-651;aCOMPONENT-652;aCOMPONENT-653;
aCOMPONENT-654;aCOMPONENT-655;aCOMPONENT-656;aCOMPONENT-657;aCOMPONENT-658;aCOMPONENT-659;
aCOMPONENT-660;aCOMPONENT-661;aCOMPONENT-662;aCOMPONENT-663;aCOMPONENT-664;aCOMPONENT-665;
aCOMPONENT-666;aCOMPONENT-667;aCOMPONENT-668;aCOMPONENT-669;aCOMPONENT-670;aCOMPONENT-671;
aCOMPONENT-672;aCOMPONENT-673;aCOMPONENT-674;aCOMPONENT-675;aCOMPONENT-676;aCOMPONENT-677;
aCOMPONENT-678;aCOMPONENT-679;aCOMPONENT-680;aCOMPONENT-681;aCOMPONENT-682;aCOMPONENT-683;
aCOMPONENT-684;aCOMPONENT-685;aCOMPONENT-686;aCOMPONENT-687;aCOMPONENT-688;aCOMPONENT-689;
aCOMPONENT-690;aCOMPONENT-691;aCOMPONENT-692;aCOMPONENT-693;aCOMPONENT-694;aCOMPONENT-695;
aCOMPONENT-696;aCOMPONENT-697;aCOMPONENT-698;aCOMPONENT-699;aCOMPONENT-700;aCOMPONENT-701;
aCOMPONENT-702;aCOMPONENT-703;aCOMPONENT-704;aCOMPONENT-705;aCOMPONENT-706;aCOMPONENT-707;
aCOMPONENT-708;aCOMPONENT-709;aCOMPONENT-710;aCOMPONENT-711;aCOMPONENT-712;aCOMPONENT-713;
aCOMPONENT-714;aCOMPONENT-715;aCOMPONENT-716;aCOMPONENT-717;aCOMPONENT-718;aCOMPONENT-719;
aCOMPONENT-720;aCOMPONENT-721;aCOMPONENT-722;aCOMPONENT-723;aCOMPONENT-724;aCOMPONENT-725;
aCOMPONENT-726;aCOMPONENT-727;aCOMPONENT-728;aCOMPONENT-729;aCOMPONENT-730;aCOMPONENT-731;
aCOMPONENT-732;aCOMPONENT-733;aCOMPONENT-734;aCOMPONENT-735;aCOMPONENT-736;aCOMPONENT-737;
aCOMPONENT-738;aCOMPONENT-739;aCOMPONENT-740;aCOMPONENT-741;aCOMPONENT-742;aCOMPONENT-743;
aCOMPONENT-744;aCOMPONENT-745;aCOMPONENT-746;aCOMPONENT-747;aCOMPONENT-748;aCOMPONENT-749;
aCOMPONENT-750;aCOMPONENT-751;aCOMPONENT-752;aCOMPONENT-753;aCOMPONENT-754;aCOMPONENT-755;
aCOMPONENT-756;aCOMPONENT-757;aCOMPONENT-758;aCOMPONENT-759;aCOMPONENT-760;aCOMPONENT-761;
aCOMPONENT-762;aCOMPONENT-763;aCOMPONENT-764;aCOMPONENT-765;aCOMPONENT-766;aCOMPONENT-767;
aCOMPONENT-768;KHITAN SMALL SCRIPT CHARACTER-18B00;cCHARACTER-18B01;cCHARACTER-18B02;
cCHARACTER-18B03;cCHARACTER-18B04;cCHARACTER-18B05;cCHARACTER-18B06;cCHARACTER-18B07;
cCHARACTER-18B08;cCHARACTER-18B09;cCHARACTER-18B0A;cCHARACTER-18B0B;cCHARACTER-18B0C;
cCHARACTER-18B0D;cCHARACTER-18B0E;cCHARACTER-18B0F;cCHARACTER-18B10;cCHARACTER-18B11;
cCHARACTER-18B12;cCHARACTER-18B13;cCHARACTER-18B14;cCHARACTER-18B15;cCHARACTER-18B16;
cCHARACTER-18B17;cCHARACTER-18B18;cCHARACTER-18B19;cCHARACTER-18B1A;cCHARACTER-18B1B;
cCHARACTER-18B1C;cCHARACTER-18B1D;cCHARACTER-18B1E;cCHARACTER-18B1F;cCHARACTER-18B20;
cCHARACTER-18B21;cCHARACTER-18B22;cCHARACTER-18B23;cCHARACTER-18B24;cCHARACTER-18B25;
cCHARACTER-18B26;cCHARACTER-18B27;cCHARACTER-18B28;cCHARACTER-18B29;cCHARACTER-18B2A;
cCHARACTER-18B2B;cCHARACTER-18B2C;cCHARACTER-18B2D;cCHARACTER-18B2E;cCHARACTER-18B2F;
cCHARACTER-18B30;cCHARACTER-18B31;cCHARACTER-18B32;cCHARACTER-18B33;cCHARACTER-18B34;
cCHARACTER-18B35;cCHARACTER-18B36;cCHARACTER-18B37;cCHARACTER-18B38;cCHARACTER-18B39;
cCHARACTER-18B3A;cCHARACTER-18B3B;cCHARACTER-18B3C;cCHARACTER-18B3D;cCHARACTER-18B3E;
cCHARACTER-18B3F;cCHARACTER-18B40;cCHARACTER-18B41;cCHARACTER-18B42;cCHARACTER-18B43;
cCHARACTER-18B44;cCHARACTER-18B45;cCHARACTER-18B46;cCHARACTER-18B47;cCHARACTER-18B48;
cCHARACTER-18B49;cCHARACTER-18B4A;cCHARACTER-18B4B;cCHARACTER-18B4C;cCHARACTER-18B4D;
cCHARACTER-18B4E;cCHARACTER-18B4F;cCHARACTER-18B50;cCHARACTER-18B51;cCHARACTER-18B52;
cCHARACTER-18B53;cCHARACTER-18B54;cCHARACTER-18B55;cCHARACTER-18B56;cCHARACTER-18B57;
cCHARACTER-18B58;cCHARACTER-18B59;cCHARACTER-18B5A;cCHARACTER-18B5B;cCHARACTER-18B5C;
cCHARACTER-18B5D;cCHARACTER-18B5E;cCHARACTER-18B5F;cCHARACTER-18B60;cCHARACTER-18B61;
cCHARACTER-18B62;cCHARACTER-18B63;cCHARACTER-18B64;cCHARACTER-18B65;cCHARACTER-18B66;
cCHARACTER-18B67;cCHARACTER-18B68;cCHARACTER-18B69;cCHARACTER-18B6A;cCHARACTER-18B6B;
cCHARACTER-18B6C;cCHARACTER-18B6D;cCHARACTER-18B6E;cCHARACTER-18B6F;cCHARACTER-18B70;
cCHARACTER-18B71;cCHARACTER-18B72;cCHARACTER-18B73;cCHARACTER-18B74;cCHARACTER-18B75;
cCHARACTER-18B76;cCHARACTER-18B77;cCHARACTER-18B78;cCHARACTER-18B79;cCHARACTER-18B7A;
cCHARACTER-18B7B;cCHARACTER-18B7C;cCHARACTER-18B7D;cCHARACTER-18B7E;cCHARACTER-18B7F;
cCHARACTER-18B80;cCHARACTER-18B81;cCHARACTER-18B82;cCHARACTER-18B83;cCHARACTER-18B84;
cCHARACTER-18B85;cCHARACTER-18B86;cCHARACTER-18B87;cCHARACTER-18B88;cCHARACTER-18B89;
cCHARACTER-18B8A;cCHARACTER-18B8B;cCHARACTER-18B8C;cCHARACTER-18B8D;cCHARACTER-18B8E;
cCHARACTER-18B8F;cCHARACTER-18B90;cCHARACTER-18B91;cCHARACTER-18B92;cCHARACTER-18B93;
cCHARACTER-18B94;cCHARACTER-18B95;cCHARACTER-18B96;cCHARACTER-18B97;cCHARACTER-18B98;
cCHARACTER-18B99;cCHARACTER-18B9A;cCHARACTER-18B9B;cCHARACTER-18B9C;cCHARACTER-18B9D;
cCHARACTER-18B9E;cCHARACTER-18B9F;cCHARACTER-18BA0;cCHARACTER-18BA1;cCHARACTER-18BA2;
cCHARACTER-18BA3;cCHARACTER-18BA4;cCHARACTER-18BA5;cCHARACTER-18BA6;cCHARACTER-18BA7;
cCHARACTER-18BA8;cCHARACTER-18BA9;cCHARACTER-18BAA;cCHARACTER-18BAB;cCHARACTER-18BAC;
cCHARACTER-18BAD;cCHARACTER-18BAE;cCHARACTER-18BAF;cCHARACTER-18BB0;cCHARACTER-18BB1;
cCHARACTER-18BB2;cCHARACTER-18BB3;cCHARACTER-18BB4;cCHARACTER-18BB5;cCHARACTER-18BB6;
cCHARACTER-18BB7;cCHARACTER-18BB8;cCHARACTER-18BB9;cCHARACTER-18BBA;cCHARACTER-18BBB;
cCHARACTER-18BBC;cCHARACTER-18BBD;cCHARACTER-18BBE;cCHARACTER-18BBF;cCHARACTER-18BC0;
cCHARACTER-18BC1;cCHARACTER-18BC2;cCHARACTER-18BC3;cCHARACTER-18BC4;cCHARACTER-18BC5;
cCHARACTER-18BC6;cCHARACTER-18BC7;cCHARACTER-18BC8;cCHARACTER-18BC9;cCHARACTER-18BCA;
cCHARACTER-18BCB;cCHARACTER-18BCC;cCHARACTER-18BCD;cCHARACTER-18BCE;cCHARACTER-18BCF;
cCHARACTER-18BD0;cCHARACTER-18BD1;cCHARACTER-18BD2;cCHARACTER-18BD3;cCHARACTER-18BD4;
cCHARACTER-18BD5;cCHARACTER-18BD6;cCHARACTER-18BD7;cCHARACTER-18BD8;cCHARACTER-18BD9;
cCHARACTER-18BDA;cCHARACTER-18BDB;cCHARACTER-18BDC;cCHARACTER-18BDD;cCHARACTER-18BDE;
cCHARACTER-18BDF;cCHARACTER-18BE0;cCHARACTER-18BE1;cCHARACTER-18BE2;cCHARACTER-18BE3;
cCHARACTER-18BE4;cCHARACTER-18BE5;cCHARACTER-18BE6;cCHARACTER-18BE7;cCHARACTER-18BE8;
cCHARACTER-18BE9;cCHARACTER-18BEA;cCHARACTER-18BEB;cCHARACTER-18BEC;cCHARACTER-18BED;
cCHARACTER-18BEE;cCHARACTER-18BEF;cCHARACTER-18BF0;cCHARACTER-18BF1;cCHARACTER-18BF2;
cCHARACTER-18BF3;cCHARACTER-18BF4;cCHARACTER-18BF5;cCHARACTER-18BF6;cCHARACTER-18BF7;
cCHARACTER-18BF8;cCHARACTER-18BF9;cCHARACTER-18BFA;cCHARACTER-18BFB;cCHARACTER-18BFC;
cCHARACTER-18BFD;cCHARACTER-18BFE;cCHARACTER-18BFF;cCHARACTER-18C00;cCHARACTER-18C01;
cCHARACTER-18C02;cCHARACTER-18C03;cCHARACTER-18C04;cCHARACTER-18C05;cCHARACTER-18C06;
cCHARACTER-18C07;cCHARACTER-18C08;cCHARACTER-18C09;cCHARACTER-18C0A;cCHARACTER-18C0B;
cCHARACTER-18C0C;cCHARACTER-18C0D;cCHARACTER-18C0E;cCHARACTER-18C0F;cCHARACTER-18C10;
cCHARACTER-18C11;cCHARACTER-18C12;cCHARACTER-18C13;cCHARACTER-18C14;cCHARACTER-18C15;
cCHARACTER-18C16;cCHARACTER-18C17;cCHARACTER-18C18;cCHARACTER-18C19;cCHARACTER-18C1A;
cCHARACTER-18C1B;cCHARACTER-18C1C;cCHARACTER-18C1D;cCHARACTER-18C1E;cCHARACTER-18C1F;
cCHARACTER-18C20;cCHARACTER-18C21;cCHARACTER-18C22;cCHARACTER-18C23;cCHARACTER-18C24;
cCHARACTER-18C25;cCHARACTER-18C26;cCHARACTER-18C27;cCHARACTER-18C28;cCHARACTER-18C29;
cCHARACTER-18C2A;cCHARACTER-18C2B;cCHARACTER-18C2C;cCHARACTER-18C2D;cCHARACTER-18C2E;
cCHARACTER-18C2F;cCHARACTER-18C30;cCHARACTER-18C31;cCHARACTER-18C32;cCHARACTER-18C33;
cCHARACTER-18C34;cCHARACTER-18C35;cCHARACTER-18C36;cCHARACTER-18C37;cCHARACTER-18C38;
cCHARACTER-18C39;cCHARACTER-18C3A;cCHARACTER-18C3B;cCHARACTER-18C3C;cCHARACTER-18C3D;
cCHARACTER-18C3E;cCHARACTER-18C3F;cCHARACTER-18C40;cCHARACTER-18C41;cCHARACTER-18C42;
cCHARACTER-18C43;cCHARACTER-18C44;cCHARACTER-18C45;cCHARACTER-18C46;cCHARACTER-18C47;
cCHARACTER-18C48;cCHARACTER-18C49;cCHARACTER-18C4A;cCHARACTER-18C4B;cCHARACTER-18C4C;
cCHARACTER-18C4D;cCHARACTER-18C4E;cCHARACTER-18C4F;cCHARACTER-18C50;cCHARACTER-18C51;
cCHARACTER-18C52;cCHARACTER-18C53;cCHARACTER-18C54;cCHARACTER-18C55;cCHARACTER-18C56;
cCHARACTER-18C57;cCHARACTER-18C58;cCHARACTER-18C59;cCHARACTER-18C5A;cCHARACTER-18C5B;
cCHARACTER-18C5C;cCHARACTER-18C5D;cCHARACTER-18C5E;cCHARACTER-18C5F;cCHARACTER-18C60;
cCHARACTER-18C61;cCHARACTER-18C62;cCHARACTER-18C63;cCHARACTER-18C64;cCHARACTER-18C65;
cCHARACTER-18C66;cCHARACTER-18C67;cCHARACTER-18C68;cCHARACTER-18C69;cCHARACTER-18C6A;
cCHARACTER-18C6B;cCHARACTER-18C6C;cCHARACTER-18C6D;cCHARACTER-18C6E;cCHARACTER-18C6F;
cCHARACTER-18C70;cCHARACTER-18C71;cCHARACTER-18C72;cCHARACTER-18C73;cCHARACTER-18C74;
cCHARACTER-18C75;cCHARACTER-18C76;cCHARACTER-18C77;cCHARACTER-18C78;cCHARACTER-18C79;
cCHARACTER-18C7A;cCHARACTER-18C7B;cCHARACTER-18C7C;cCHARACTER-18C7D;cCHARACTER-18C7E;
cCHARACTER-18C7F;cCHARACTER-18C80;cCHARACTER-18C81;cCHARACTER-18C82;cCHARACTER-18C83;
cCHARACTER-18C84;cCHARACTER-18C85;cCHARACTER-18C86;cCHARACTER-18C87;cCHARACTER-18C88;
cCHARACTER-18C89;cCHARACTER-18C8A;cCHARACTER-18C8B;cCHARACTER-18C8C;cCHARACTER-18C8D;
cCHARACTER-18C8E;cCHARACTER-18C8F;cCHARACTER-18C90;cCHARACTER-18C91;cCHARACTER-18C92;
cCHARACTER-18C93;cCHARACTER-18C94;cCHARACTER-18C95;cCHARACTER-18C96;cCHARACTER-18C97;
cCHARACTER-18C98;cCHARACTER-18C99;cCHARACTER-18C9A;cCHARACTER-18C9B;cCHARACTER-18C9C;
cCHARACTER-18C9D;cCHARACTER-18C9E;cCHARACTER-18C9F;cCHARACTER-18CA0;cCHARACTER-18CA1;
cCHARACTER-18CA2;cCHARACTER-18CA3;cCHARACTER-18CA4;cCHARACTER-18CA5;cCHARACTER-18CA6;
cCHARACTER-18CA7;cCHARACTER-18CA8;cCHARACTER-18CA9;cCHARACTER-18CAA;cCHARACTER-18CAB;
cCHARACTER-18CAC;cCHARACTER-18CAD;cCHARACTER-18CAE;cCHARACTER-18CAF;cCHARACTER-18CB0;
cCHARACTER-18CB1;cCHARACTER-18CB2;cCHARACTER-18CB3;cCHARACTER-18CB4;cCHARACTER-18CB5;
cCHARACTER-18CB6;cCHARACTER-18CB7;cCHARACTER-18CB8;cCHARACTER-18CB9;cCHARACTER-18CBA;
cCHARACTER-18CBB;cCHARACTER-18CBC;cCHARACTER-18CBD;cCHARACTER-18CBE;cCHARACTER-18CBF;
cCHARACTER-18CC0;cCHARACTER-18CC1;cCHARACTER-18CC2;cCHARACTER-18CC3;cCHARACTER-18CC4;
cCHARACTER-18CC5;cCHARACTER-18CC6;cCHARACTER-18CC7;cCHARACTER-18CC8;cCHARACTER-18CC9;
cCHARACTER-18CCA;cCHARACTER-18CCB;cCHARACTER-18CCC;cCHARACTER-18CCD;cCHARACTER-18CCE;
cCHARACTER-18CCF;cCHARACTER-18CD0;cCHARACTER-18CD1;cCHARACTER-18CD2;cCHARACTER-18CD3;
cCHARACTER-18CD4;cCHARACTER-18CD5;1AFF0=KATAKANA LETTER MINNAN TONE-2;cTONE-3;cTONE-4;cTONE-5;
1AFF5=cTONE-7;cTONE-8;cNASALIZED TONE-1;dTONE-2;dTONE-3;dTONE-4;dTONE-5;1AFFD=dTONE-7;dTONE-8;
1B000=bARCHAIC E;HIRAGANA LETTER ARCHAIC YE;HENTAIGANA LETTER A-1;bA-2;bA-3;bA-WO;bI-1;bI-2;bI-3;
bI-4;bU-1;bU-2;bU-3;bU-4;bU-5;bE-2;bE-3;bE-4;bE-5;bE-6;bO-1;bO-2;bO-3;bKA-1;bKA-2;bKA-3;bKA-4;
bKA-5;bKA-6;bKA-7;bKA-8;bKA-9;bKA-10;bKA-11;bKA-KE;bKI-1;bKI-2;bKI-3;bKI-4;bKI-5;bKI-6;bKI-7;
bKI-8;bKU-1;bKU-2;bKU-3;bKU-4;bKU-5;bKU-6;bKU-7;bKE-1;bKE-2;bKE-3;bKE-4;bKE-5;bKE-6;bKO-1;bKO-2;
bKO-3;bKO-KI;bSA-1;bSA-2;bSA-3;bSA-4;bSA-5;bSA-6;bSA-7;bSA-8;bSI-1;bSI-2;bSI-3;bSI-4;bSI-5;bSI-6;
bSU-1;bSU-2;bSU-3;bSU-4;bSU-5;bSU-6;bSU-7;bSU-8;bSE-1;bSE-2;bSE-3;bSE-4;bSE-5;bSO-1;bSO-2;bSO-3;
bSO-4;bSO-5;bSO-6;bSO-7;bTA-1;bTA-2;bTA-3;bTA-4;bTI-1;bTI-2;bTI-3;bTI-4;bTI-5;bTI-6;bTI-7;bTU-1;
bTU-2;bTU-3;bTU-4;bTU-TO;bTE-1;bTE-2;bTE-3;bTE-4;bTE-5;bTE-6;bTE-7;bTE-8;bTE-9;bTO-1;bTO-2;bTO-3;
bTO-4;bTO-5;bTO-6;bTO-RA;bNA-1;bNA-2;bNA-3;bNA-4;bNA-5;bNA-6;bNA-7;bNA-8;bNA-9;bNI-1;bNI-2;bNI-3;
bNI-4;bNI-5;bNI-6;bNI-7;bNI-TE;bNU-1;bNU-2;bNU-3;bNE-1;bNE-2;bNE-3;bNE-4;bNE-5;bNE-6;bNE-KO;bNO-1;
bNO-2;bNO-3;bNO-4;bNO-5;bHA-1;bHA-2;bHA-3;bHA-4;bHA-5;bHA-6;bHA-7;bHA-8;bHA-9;bHA-10;bHA-11;bHI-1;
bHI-2;bHI-3;bHI-4;bHI-5;bHI-6;bHI-7;bHU-1;bHU-2;bHU-3;bHE-1;bHE-2;bHE-3;bHE-4;bHE-5;bHE-6;bHE-7;
bHO-1;bHO-2;bHO-3;bHO-4;bHO-5;bHO-6;bHO-7;bHO-8;bMA-1;bMA-2;bMA-3;bMA-4;bMA-5;bMA-6;bMA-7;bMI-1;
bMI-2;bMI-3;bMI-4;bMI-5;bMI-6;bMI-7;bMU-1;bMU-2;bMU-3;bMU-4;bME-1;bME-2;bME-MA;bMO-1;bMO-2;bMO-3;
bMO-4;bMO-5;bMO-6;bYA-1;bYA-2;bYA-3;bYA-4;bYA-5;bYA-YO;bYU-1;bYU-2;bYU-3;bYU-4;bYO-1;bYO-2;bYO-3;
bYO-4;bYO-5;bYO-6;bRA-1;bRA-2;bRA-3;bRA-4;bRI-1;bRI-2;bRI-3;bRI-4;bRI-5;bRI-6;bRI-7;bRU-1;bRU-2;
bRU-3;bRU-4;bRU-5;bRU-6;bRE-1;bRE-2;bRE-3;bRE-4;bRO-1;bRO-2;bRO-3;bRO-4;bRO-5;bRO-6;bWA-1;bWA-2;
bWA-3;bWA-4;bWA-5;bWI-1;bWI-2;bWI-3;bWI-4;bWI-5;bWE-1;bWE-2;bWE-3;bWE-4;bWO-1;bWO-2;bWO-3;bWO-4;
bWO-5;bWO-6;bWO-7;bN-MU-MO-1;bN-MU-MO-2;HIRAGANA LETTER ARCHAIC WU;KATAKANA LETTER ARCHAIC YI;cYE;
cWU;1B150=HIRAGANA LETTER SMALL WI;cWE;cWO;1B164=KATAKANA LETTER SMALL WI;cWE;cWO;cN;
1B170=NUSHU CHARACTER-1B170;aCHARACTER-1B171;aCHARACTER-1B172;aCHARACTER-1B173;aCHARACTER-1B174;
aCHARACTER-1B175;aCHARACTER-1B176;aCHARACTER-1B177;aCHARACTER-1B178;aCHARACTER-1B179;
aCHARACTER-1B17A;aCHARACTER-1B17B;aCHARACTER-1B17C;aCHARACTER-1B17D;aCHARACTER-1B17E;
aCHARACTER-1B17F;aCHARACTER-1B180;aCHARACTER-1B181;aCHARACTER-1B182;aCHARACTER-1B183;
aCHARACTER-1B184;aCHARACTER-1B185;aCHARACTER-1B186;aCHARACTER-1B187;aCHARACTER-1B188;
aCHARACTER-1B189;aCHARACTER-1B18A;aCHARACTER-1B18B;aCHARACTER-1B18C;aCHARACTER-1B18D;
aCHARACTER-1B18E;aCHARACTER-1B18F;aCHARACTER-1B190;aCHARACTER-1B191;aCHARACTER-1B192;
aCHARACTER-1B193;aCHARACTER-1B194;aCHARACTER-1B195;aCHARACTER-1B196;aCHARACTER-1B197;
aCHARACTER-1B198;aCHARACTER-1B199;aCHARACTER-1B19A;aCHARACTER-1B19B;aCHARACTER-1B19C;
aCHARACTER-1B19D;aCHARACTER-1B19E;aCHARACTER-1B19F;aCHARACTER-1B1A0;aCHARACTER-1B1A1;
aCHARACTER-1B1A2;aCHARACTER-1B1A3;aCHARACTER-1B1A4;aCHARACTER-1B1A5;aCHARACTER-1B1A6;
aCHARACTER-1B1A7;aCHARACTER-1B1A8;aCHARACTER-1B1A9;aCHARACTER-1B1AA;aCHARACTER-1B1AB;
aCHARACTER-1B1AC;aCHARACTER-1B1AD;aCHARACTER-1B1AE;aCHARACTER-1B1AF;aCHARACTER-1B1B0;
aCHARACTER-1B1B1;aCHARACTER-1B1B2;aCHARACTER-1B1B3;aCHARACTER-1B1B4;aCHARACTER-1B1B5;
aCHARACTER-1B1B6;aCHARACTER-1B1B7;aCHARACTER-1B1B8;aCHARACTER-1B1B9;aCHARACTER-1B1BA;
aCHARACTER-1B1BB;aCHARACTER-1B1BC;aCHARACTER-1B1BD;aCHARACTER-1B1BE;aCHARACTER-1B1BF;
aCHARACTER-1B1C0;aCHARACTER-1B1C1;aCHARACTER-1B1C2;aCHARACTER-1B1C3;aCHARACTER-1B1C4;
aCHARACTER-1B1C5;aCHARACTER-1B1C6;aCHARACTER-1B1C7;aCHARACTER-1B1C8;aCHARACTER-1B1C9;
aCHARACTER-1B1CA;aCHARACTER-1B1CB;aCHARACTER-1B1CC;aCHARACTER-1B1CD;aCHARACTER-1B1CE;
aCHARACTER-1B1CF;aCHARACTER-1B1D0;aCHARACTER-1B1D1;aCHARACTER-1B1D2;aCHARACTER-1B1D3;
aCHARACTER-1B1D4;aCHARACTER-1B1D5;aCHARACTER-1B1D6;aCHARACTER-1B1D7;aCHARACTER-1B1D8;
aCHARACTER-1B1D9;aCHARACTER-1B1DA;aCHARACTER-1B1DB;aCHARACTER-1B1DC;aCHARACTER-1B1DD;
aCHARACTER-1B1DE;aCHARACTER-1B1DF;aCHARACTER-1B1E0;aCHARACTER-1B1E1;aCHARACTER-1B1E2;
aCHARACTER-1B1E3;aCHARACTER-1B1E4;aCHARACTER-1B1E5;aCHARACTER-1B1E6;aCHARACTER-1B1E7;
aCHARACTER-1B1E8;aCHARACTER-1B1E9;aCHARACTER-1B1EA;aCHARACTER-1B1EB;aCHARACTER-1B1EC;
aCHARACTER-1B1ED;aCHARACTER-1B1EE;aCHARACTER-1B1EF;aCHARACTER-1B1F0;aCHARACTER-1B1F1;
aCHARACTER-1B1F2;aCHARACTER-1B1F3;aCHARACTER-1B1F4;aCHARACTER-1B1F5;aCHARACTER-1B1F6;
aCHARACTER-1B1F7;aCHARACTER-1B1F8;aCHARACTER-1B1F9;aCHARACTER-1B1FA;aCHARACTER-1B1FB;
aCHARACTER-1B1FC;aCHARACTER-1B1FD;aCHARACTER-1B1FE;aCHARACTER-1B1FF;aCHARACTER-1B200;
aCHARACTER-1B201;aCHARACTER-1B202;aCHARACTER-1B203;aCHARACTER-1B204;aCHARACTER-1B205;
aCHARACTER-1B206;aCHARACTER-1B207;aCHARACTER-1B208;aCHARACTER-1B209;aCHARACTER-1B20A;
aCHARACTER-1B20B;aCHARACTER-1B20C;aCHARACTER-1B20D;aCHARACTER-1B20E;aCHARACTER-1B20F;
aCHARACTER-1B210;aCHARACTER-1B211;aCHARACTER-1B212;aCHARACTER-1B213;aCHARACTER-1B214;
aCHARACTER-1B215;aCHARACTER-1B216;aCHARACTER-1B217;aCHARACTER-1B218;aCHARACTER-1B219;
aCHARACTER-1B21A;aCHARACTER-1B21B;aCHARACTER-1B21C;aCHARACTER-1B21D;aCHARACTER-1B21E;
aCHARACTER-1B21F;aCHARACTER-1B220;aCHARACTER-1B221;aCHARACTER-1B222;aCHARACTER-1B223;
aCHARACTER-1B224;aCHARACTER-1B225;aCHARACTER-1B226;aCHARACTER-1B227;aCHARACTER-1B228;
aCHARACTER-1B229;aCHARACTER-1B22A;aCHARACTER-1B22B;aCHARACTER-1B22C;aCHARACTER-1B22D;
aCHARACTER-1B22E;aCHARACTER-1B22F;aCHARACTER-1B230;aCHARACTER-1B231;aCHARACTER-1B232;
aCHARACTER-1B233;aCHARACTER-1B234;aCHARACTER-1B235;aCHARACTER-1B236;aCHARACTER-1B237;
aCHARACTER-1B238;aCHARACTER-1B239;aCHARACTER-1B23A;aCHARACTER-1B23B;aCHARACTER-1B23C;
aCHARACTER-1B23D;aCHARACTER-1B23E;aCHARACTER-1B23F;aCHARACTER-1B240;aCHARACTER-1B241;
aCHARACTER-1B242;aCHARACTER-1B243;aCHARACTER-1B244;aCHARACTER-1B245;aCHARACTER-1B246;
aCHARACTER-1B247;aCHARACTER-1B248;aCHARACTER-1B249;aCHARACTER-1B24A;aCHARACTER-1B24B;
aCHARACTER-1B24C;aCHARACTER-1B24D;aCHARACTER-1B24E;aCHARACTER-1B24F;aCHARACTER-1B250;
aCHARACTER-1B251;aCHARACTER-1B252;aCHARACTER-1B253;aCHARACTER-1B254;aCHARACTER-1B255;
aCHARACTER-1B256;aCHARACTER-1B257;aCHARACTER-1B258;aCHARACTER-1B259;aCHARACTER-1B25A;
aCHARACTER-1B25B;aCHARACTER-1B25C;aCHARACTER-1B25D;aCHARACTER-1B25E;aCHARACTER-1B25F;
aCHARACTER-1B260;aCHARACTER-1B261;aCHARACTER-1B262;aCHARACTER-1B263;aCHARACTER-1B264;
aCHARACTER-1B265;aCHARACTER-1B266;aCHARACTER-1B267;aCHARACTER-1B268;aCHARACTER-1B269;
aCHARACTER-1B26A;aCHARACTER-1B26B;aCHARACTER-1B26C;aCHARACTER-1B26D;aCHARACTER-1B26E;
aCHARACTER-1B26F;aCHARACTER-1B270;aCHARACTER-1B271;aCHARACTER-1B272;aCHARACTER-1B273;
aCHARACTER-1B274;aCHARACTER-1B275;aCHARACTER-1B276;aCHARACTER-1B277;aCHARACTER-1B278;
aCHARACTER-1B279;aCHARACTER-1B27A;aCHARACTER-1B27B;aCHARACTER-1B27C;aCHARACTER-1B27D;
aCHARACTER-1B27E;aCHARACTER-1B27F;aCHARACTER-1B280;aCHARACTER-1B281;aCHARACTER-1B282;
aCHARACTER-1B283;aCHARACTER-1B284;aCHARACTER-1B285;aCHARACTER-1B286;aCHARACTER-1B287;
aCHARACTER-1B288;aCHARACTER-1B289;aCHARACTER-1B28A;aCHARACTER-1B28B;aCHARACTER-1B28C;
aCHARACTER-1B28D;aCHARACTER-1B28E;aCHARACTER-1B28F;aCHARACTER-1B290;aCHARACTER-1B291;
aCHARACTER-1B292;aCHARACTER-1B293;aCHARACTER-1B294;aCHARACTER-1B295;aCHARACTER-1B296;
aCHARACTER-1B297;aCHARACTER-1B298;aCHARACTER-1B299;aCHARACTER-1B29A;aCHARACTER-1B29B;
aCHARACTER-1B29C;aCHARACTER-1B29D;aCHARACTER-1B29E;aCHARACTER-1B29F;aCHARACTER-1B2A0;
aCHARACTER-1B2A1;aCHARACTER-1B2A2;aCHARACTER-1B2A3;aCHARACTER-1B2A4;aCHARACTER-1B2A5;
aCHARACTER-1B2A6;aCHARACTER-1B2A7;aCHARACTER-1B2A8;aCHARACTER-1B2A9;aCHARACTER-1B2AA;
aCHARACTER-1B2AB;aCHARACTER-1B2AC;aCHARACTER-1B2AD;aCHARACTER-1B2AE;aCHARACTER-1B2AF;
aCHARACTER-1B2B0;aCHARACTER-1B2B1;aCHARACTER-1B2B2;aCHARACTER-1B2B3;aCHARACTER-1B2B4;
aCHARACTER-1B2B5;aCHARACTER-1B2B6;aCHARACTER-1B2B7;aCHARACTER-1B2B8;aCHARACTER-1B2B9;
aCHARACTER-1B2BA;aCHARACTER-1B2BB;aCHARACTER-1B2BC;aCHARACTER-1B2BD;aCHARACTER-1B2BE;
aCHARACTER-1B2BF;aCHARACTER-1B2C0;aCHARACTER-1B2C1;aCHARACTER-1B2C2;aCHARACTER-1B2C3;
aCHARACTER-1B2C4;aCHARACTER-1B2C5;aCHARACTER-1B2C6;aCHARACTER-1B2C7;aCHARACTER-1B2C8;
aCHARACTER-1B2C9;aCHARACTER-1B2CA;aCHARACTER-1B2CB;aCHARACTER-1B2CC;aCHARACTER-1B2CD;
aCHARACTER-1B2CE;aCHARACTER-1B2CF;aCHARACTER-1B2D0;aCHARACTER-1B2D1;aCHARACTER-1B2D2;
aCHARACTER-1B2D3;aCHARACTER-1B2D4;aCHARACTER-1B2D5;aCHARACTER-1B2D6;aCHARACTER-1B2D7;
aCHARACTER-1B2D8;aCHARACTER-1B2D9;aCHARACTER-1B2DA;aCHARACTER-1B2DB;aCHARACTER-1B2DC;
aCHARACTER-1B2DD;aCHARACTER-1B2DE;aCHARACTER-1B2DF;aCHARACTER-1B2E0;aCHARACTER-1B2E1;
aCHARACTER-1B2E2;aCHARACTER-1B2E3;aCHARACTER-1B2E4;aCHARACTER-1B2E5;aCHARACTER-1B2E6;
aCHARACTER-1B2E7;aCHARACTER-1B2E8;aCHARACTER-1B2E9;aCHARACTER-1B2EA;aCHARACTER-1B2EB;
aCHARACTER-1B2EC;aCHARACTER-1B2ED;aCHARACTER-1B2EE;aCHARACTER-1B2EF;aCHARACTER-1B2F0;
aCHARACTER-1B2F1;aCHARACTER-1B2F2;aCHARACTER-1B2F3;aCHARACTER-1B2F4;aCHARACTER-1B2F5;
aCHARACTER-1B2F6;aCHARACTER-1B2F7;aCHARACTER-1B2F8;aCHARACTER-1B2F9;aCHARACTER-1B2FA;
aCHARACTER-1B2FB;1BC00=DUPLOYAN LETTER H;bX;bP;bT;bF;bK;bL;bB;bD;bV;bG;bR;bP N;bD S;bF N;bK M;
bR S;bTH;bSLOAN DH;bDH;bKK;bSLOAN J;bHL;bLH;bRH;bM;bN;bJ;bS;bM N;bN M;bJ M;bS J;bM WITH DOT;
bN WITH DOT;bJ WITH DOT;dDOTS INSIDE AND ABOVE;bS WITH DOT;eBELOW;bM S;bN S;bJ S;bS S;bM N S;
bN M S;bJ M S;bS J S;bJ S WITH DOT;cN;dS;bS T;dR;cP;dR;bT S;cR S;bW;bWH;bW R;bS N;cM;bK R S;
bG R S;bS K;dR;bA;bSLOAN OW;bOA;bO;bAOU;bI;bE;bIE;bSHORT I;bUI;bEE;bSLOAN EH;bROMANIAN I;
bSLOAN EE;bLONG I;bYE;bU;bEU;bXW;bU N;bLONG U;bROMANIAN U;bUH;bSLOAN U;bOOH;bOW;bOU;bWA;bWO;bWI;
bWEI;bWOW;bNASAL U;cO;cI;cA;bPERNIN AN;cAM;bSLOAN EN;cAN;cON;bVOCALIC M;
1BC70=aAFFIX LEFT HORIZONTAL SECANT;bMID HORIZONTAL SECANT;bRIGHT HORIZONTAL SECANT;
bLOW VERTICAL SECANT;bMID VERTICAL SECANT;bHIGH VERTICAL SECANT;bATTACHED SECANT;
cLEFT-TO-RIGHT SECANT;cTANGENT;cTAIL;cE HOOK;cI HOOK;cTANGENT HOOK;1BC80=bHIGH ACUTE;cTIGHT ACUTE;
cGRAVE;cLONG GRAVE;cDOT;cCIRCLE;cLINE;cWAVE;cVERTICAL;1BC90=bLOW ACUTE;cTIGHT ACUTE;cGRAVE;
cLONG GRAVE;cDOT;cCIRCLE;cLINE;cWAVE;cVERTICAL;cARROW;1BC9C=aSIGN O WITH CROSS;
aTHICK LETTER SELECTOR;aDOUBLE MARK;aPUNCTUATION CHINOOK FULL STOP;
SHORTHAND FORMAT LETTER OVERLAP;bCONTINUING OVERLAP;bDOWN STEP;bUP STEP;
1CF00=ZNAMENNY COMBINING MARK GORAZDO NIZKO S KRYZHEM ON LEFT;cNIZKO S KRYZHEM ON LEFT;
cTSATA ON LEFT;cGORAZDO NIZKO ON LEFT;cNIZKO ON LEFT;cSREDNE ON LEFT;cMALO POVYSHE ON LEFT;
cPOVYSHE ON LEFT;cVYSOKO ON LEFT;cMALO POVYSHE S KHOKHLOM ON LEFT;cPOVYSHE S KHOKHLOM ON LEFT;
cVYSOKO S KHOKHLOM ON LEFT;cGORAZDO NIZKO S KRYZHEM ON RIGHT;cNIZKO S KRYZHEM ON RIGHT;
cTSATA ON RIGHT;cGORAZDO NIZKO ON RIGHT;cNIZKO ON RIGHT;cSREDNE ON RIGHT;cMALO POVYSHE ON RIGHT;
cPOVYSHE ON RIGHT;cVYSOKO ON RIGHT;cMALO POVYSHE S KHOKHLOM ON RIGHT;cPOVYSHE S KHOKHLOM ON RIGHT;
cVYSOKO S KHOKHLOM ON RIGHT;cTSATA S KRYZHEM;cMALO POVYSHE S KRYZHEM;cSTRANNO MALO POVYSHE;
cPOVYSHE S KRYZHEM;dSTRANNO;cVYSOKO S KRYZHEM;cMALO POVYSHE STRANNO;cGORAZDO VYSOKO;cZELO;cON;
cRAVNO;cTIKHAYA;cBORZAYA;cUDARKA;cPODVERTKA;cLOMKA;cKUPNAYA;cKACHKA;cZEVOK;cSKOBA;cRAZSEKA;
cKRYZH ON LEFT;1CF30=bTONAL RANGE MARK MRACHNO;eSVETLO;eTRESVETLO;bMARK ZADERZHKA;
cDEMESTVENNY ZADERZHKA;cOTSECHKA;cPODCHASHIE;dWITH VERTICAL STROKE;cCHASHKA;dPOLNAYA;cOBLACHKO;
cSOROCHYA NOZHKA;cTOCHKA;cDVOETOCHIE;bATTACHING VERTICAL OMET;bMARK CURVED OMET;cKRYZH;
bLOWER TONAL RANGE INDICATOR;aPRIZNAK MODIFIER LEVEL-2;cLEVEL-3;cDIRECTION FLIP;cKRYZH;cROG;
1CF50=aNEUME KRYUK;cTIKHY;bPARAKLIT;bDVA V CHELNU;bKLYUCH;bZANOZHEK;bSTOPITSA;cS OCHKOM;
bPEREVODKA;cNEPOSTOYANNAYA;bSTOPITSA WITH SOROCHYA NOZHKA;bCHELYUSTKA;bPALKA;bZAPYATAYA;
bGOLUBCHIK BORZY;cTIKHY;cMRACHNY;cSVETLY;cTRESVETLY;bVRAKHIYA PROSTAYA;cMRACHNAYA;cSVETLAYA;
cTRESVETLAYA;cKLYUCHEVAYA PROSTAYA;dMRACHNAYA;dSVETLAYA;dTRESVETLAYA;bDOUBLE ZAPYATAYA;
bREVERSED CHELYUSTKA;bDERBITSA;bKHAMILO;bCHASHKA;bPODCHASHIE;bSKAMEYTSA MRACHNAYA;cSVETLAYA;
cTRESVETLAYA;cTIKHAYA;bDEMESTVENNY KLYUCH;bSKAMEYTSA KLYUCHEVAYA SVETLAYA;cKLYUCHENEPOSTOYANNAYA;
cKLYUCHEVAYA TIKHAYA;cDVOECHELNAYA PROSTAYA;dSVETLAYA;dNEPOSTOYANNAYA;dKLYUCHEVAYA;bSLOZHITIE;
cS ZAPYATOY;cZAKRYTOE;cS KRYZHEM;bKRYZH;bROG;bFITA;bKOBYLA;bZMEYTSA;bSTATYA;cS ZAPYATOY;dKRYZHEM;
dZAPYATOY I KRYZHEM;dKRYZHEM I ZAPYATOY;cZAKRYTAYA;dS ZAPYATOY;cS ROGOM;dDVUMYA ZAPYATYMI;
dZAPYATOY I PODCHASHIEM;bPOLKULIZMY;bSTATYA NEPOSTOYANNAYA;bSTRELA PROSTAYA;cMRACHNOTIKHAYA;
cKRYZHEVAYA;cPOLUPOVODNAYA;cPOVODNAYA;cNEPOSTOYANNAYA;cKLYUCHEPOVODNAYA;cKLYUCHENEPOSTOYANNAYA;
cTIKHAYA PUTNAYA;cDVOECHELNAYA;cDVOECHELNOKRYZHEVAYA;cDVOECHELNOPOVODNAYA;
cDVOECHELNAYA KLYUCHEVAYA;cDVOECHELNOPOVODNAYA KLYUCHEVAYA;cGROMNAYA WITH SINGLE ZAPYATAYA;
cGROMOPOVODNAYA WITH SINGLE ZAPYATAYA;cGROMNAYA;cGROMOPOVODNAYA;dWITH DOUBLE ZAPYATAYA;
cGROMOKRYZHEVAYA;dPOVODNAYA;bMECHIK;cPOVODNY;cKLYUCHEVOY;cKLYUCHEPOVODNY;cKLYUCHENEPOSTOYANNY;
bSTRELA TRYASOGLASNAYA;cTRYASOPOVODNAYA;cTRYASOSTRELNAYA;bOSOKA;cSVETLAYA;cTRESVETLAYA;
cKRYUKOVAYA SVETLAYA;cKLYUCHEVAYA SVETLAYA;dNEPOSTOYANNAYA;bSTRELA KRYUKOVAYA;dPOVODNAYA;
dGROMNAYA WITH SINGLE ZAPYATAYA;dGROMOPOVODNAYA WITH SINGLE ZAPYATAYA;dGROMNAYA;dGROMOPOVODNAYA;
eWITH DOUBLE ZAPYATAYA;dGROMOKRYZHEVAYA;ePOVODNAYA;dTRYASKA;bKUFISMA;bOBLAKO;bDUDA;bNEMKA;bPAUK;
1D000=BYZANTINE MUSICAL SYMBOL PSILI;cDASEIA;cPERISPOMENI;cOXEIA EKFONITIKON;dDIPLI;
cVAREIA EKFONITIKON;dDIPLI;cKATHISTI;cSYRMATIKI;cPARAKLITIKI;cYPOKRISIS;dDIPLI;cKREMASTI;
cAPESO EKFONITIKON;cEXO EKFONITIKON;cTELEIA;cKENTIMATA;cAPOSTROFOS;dDIPLI;cSYNEVMA;cTHITA;
cOLIGON ARCHAION;cGORGON ARCHAION;cPSILON;cCHAMILON;cVATHY;cISON ARCHAION;cKENTIMA ARCHAION;
cKENTIMATA ARCHAION;cSAXIMATA;cPARICHON;cSTAVROS APODEXIA;cOXEIAI ARCHAION;cVAREIAI ARCHAION;
cAPODERMA ARCHAION;cAPOTHEMA;cKLASMA;cREVMA;cPIASMA ARCHAION;cTINAGMA;cANATRICHISMA;cSEISMA;
cSYNAGMA ARCHAION;dMETA STAVROU;cOYRANISMA ARCHAION;cTHEMA;cLEMOI;cDYO;cTRIA;cTESSERA;cKRATIMATA;
cAPESO EXO NEO;cFTHORA ARCHAION;cIMIFTHORA;cTROMIKON ARCHAION;cKATAVA TROMIKON;cPELASTON;
cPSIFISTON;cKONTEVMA;cCHOREVMA ARCHAION;cRAPISMA;cPARAKALESMA ARCHAION;cPARAKLITIKI ARCHAION;
cICHADIN;cNANA;cPETASMA;cKONTEVMA ALLO;cTROMIKON ALLO;cSTRAGGISMATA;cGRONTHISMATA;cISON NEO;
cOLIGON NEO;cOXEIA NEO;cPETASTI;cKOUFISMA;cPETASTOKOUFISMA;cKRATIMOKOUFISMA;cPELASTON NEO;
cKENTIMATA NEO ANO;cKENTIMA NEO ANO;cYPSILI;cAPOSTROFOS NEO;cAPOSTROFOI SYNDESMOS NEO;cYPORROI;
cKRATIMOYPORROON;cELAFRON;cCHAMILI;cMIKRON ISON;cVAREIA NEO;cPIASMA NEO;cPSIFISTON NEO;cOMALON;
cANTIKENOMA;cLYGISMA;cPARAKLITIKI NEO;cPARAKALESMA NEO;cETERON PARAKALESMA;cKYLISMA;
cANTIKENOKYLISMA;cTROMIKON NEO;cEKSTREPTON;cSYNAGMA NEO;cSYRMA;cCHOREVMA NEO;cEPEGERMA;
cSEISMA NEO;cXIRON KLASMA;cTROMIKOPSIFISTON;cPSIFISTOLYGISMA;cTROMIKOLYGISMA;cTROMIKOPARAKALESMA;
cPSIFISTOPARAKALESMA;cTROMIKOSYNAGMA;cPSIFISTOSYNAGMA;cGORGOSYNTHETON;cARGOSYNTHETON;
cETERON ARGOSYNTHETON;cOYRANISMA NEO;cTHEMATISMOS ESO;dEXO;cTHEMA APLOUN;cTHES KAI APOTHES;
cKATAVASMA;cENDOFONON;cYFEN KATO;dANO;cSTAVROS;cKLASMA ANO;cDIPLI ARCHAION;cKRATIMA ARCHAION;
dALLO;dNEO;cAPODERMA NEO;cAPLI;cDIPLI;cTRIPLI;cTETRAPLI;cKORONIS;cLEIMMA ENOS CHRONOU;
dDYO CHRONON;dTRION CHRONON;dTESSARON CHRONON;dIMISEOS CHRONOU;cGORGON NEO ANO;
dPARESTIGMENON ARISTERA;eDEXIA;cDIGORGON;dPARESTIGMENON ARISTERA KATO;fANO;eDEXIA;cTRIGORGON;
cARGON;cIMIDIARGON;cDIARGON;cAGOGI POLI ARGI;dARGOTERI;dARGI;dMETRIA;dMESI;dGORGI;dGORGOTERI;
dPOLI GORGI;cMARTYRIA PROTOS ICHOS;dALLI PROTOS ICHOS;dDEYTEROS ICHOS;dALLI DEYTEROS ICHOS;
dTRITOS ICHOS;dTRIFONIAS;dTETARTOS ICHOS;eLEGETOS ICHOS;dLEGETOS ICHOS;dPLAGIOS ICHOS;
cISAKIA TELOUS ICHIMATOS;cAPOSTROFOI TELOUS ICHIMATOS;cFANEROSIS TETRAFONIAS;dMONOFONIAS;
dDIFONIAS;cMARTYRIA VARYS ICHOS;dPROTOVARYS ICHOS;dPLAGIOS TETARTOS ICHOS;cGORTHMIKON N APLOUN;
eDIPLOUN;cENARXIS KAI FTHORA VOU;cIMIFONON;cIMIFTHORON;cFTHORA ARCHAION DEYTEROU ICHOU;
dDIATONIKI PA;eNANA;dNAOS ICHOS;dDIATONIKI DI;dSKLIRON DIATONON DI;dDIATONIKI KE;eZO;eNI KATO;
fANO;dMALAKON CHROMA DIFONIAS;fMONOFONIAS;cFHTORA SKLIRON CHROMA VASIS;
cFTHORA SKLIRON CHROMA SYNAFI;dNENANO;cCHROA ZYGOS;dKLITON;dSPATHI;cFTHORA I YFESIS TETARTIMORION;
dENARMONIOS ANTIFONIA;cYFESIS TRITIMORION;cDIESIS TRITIMORION;dTETARTIMORION;dAPLI DYO DODEKATA;
dMONOGRAMMOS TESSERA DODEKATA;dDIGRAMMOS EX DODEKATA;dTRIGRAMMOS OKTO DODEKATA;
cYFESIS APLI DYO DODEKATA;dMONOGRAMMOS TESSERA DODEKATA;dDIGRAMMOS EX DODEKATA;
dTRIGRAMMOS OKTO DODEKATA;cGENIKI DIESIS;dYFESIS;cDIASTOLI APLI MIKRI;eMEGALI;dDIPLI;dTHESEOS;
cSIMANSIS THESEOS;eDISIMOU;eTRISIMOU;eTETRASIMOU;dARSEOS;eDISIMOU;eTRISIMOU;eTETRASIMOU;
cDIGRAMMA GG;cDIFTOGGOS OU;cSTIGMA;cARKTIKO PA;dVOU;dGA;dDI;dKE;dZO;dNI;cKENTIMATA NEO MESO;
cKENTIMA NEO MESO;cKENTIMATA NEO KATO;cKENTIMA NEO KATO;cKLASMA KATO;cGORGON NEO KATO;
1D100=MUSICAL SYMBOL SINGLE BARLINE;bDOUBLE BARLINE;bFINAL BARLINE;bREVERSE FINAL BARLINE;
bDASHED BARLINE;bSHORT BARLINE;bLEFT REPEAT SIGN;bRIGHT REPEAT SIGN;bREPEAT DOTS;bDAL SEGNO;
bDA CAPO;bSEGNO;bCODA;bREPEATED FIGURE-1;cFIGURE-2;cFIGURE-3;bFERMATA;cBELOW;bBREATH MARK;
bCAESURA;bBRACE;bBRACKET;bONE-LINE STAFF;bTWO-LINE STAFF;bTHREE-LINE STAFF;bFOUR-LINE STAFF;
bFIVE-LINE STAFF;bSIX-LINE STAFF;bSIX-STRING FRETBOARD;bFOUR-STRING FRETBOARD;bG CLEF;
dOTTAVA ALTA;eBASSA;bC CLEF;bF CLEF;dOTTAVA ALTA;eBASSA;bDRUM CLEF-1;cCLEF-2;
1D129=bMULTIPLE MEASURE REST;bDOUBLE SHARP;cFLAT;bFLAT UP;cDOWN;bNATURAL UP;cDOWN;bSHARP UP;cDOWN;
bQUARTER TONE SHARP;dFLAT;bCOMMON TIME;bCUT TIME;bOTTAVA ALTA;cBASSA;bQUINDICESIMA ALTA;cBASSA;
bMULTI REST;bWHOLE REST;bHALF REST;bQUARTER REST;bEIGHTH REST;bSIXTEENTH REST;bTHIRTY-SECOND REST;
bSIXTY-FOURTH REST;bONE HUNDRED TWENTY-EIGHTH REST;bX NOTEHEAD;bPLUS NOTEHEAD;bCIRCLE X NOTEHEAD;
bSQUARE NOTEHEAD WHITE;dBLACK;bTRIANGLE NOTEHEAD UP WHITE;eBLACK;dLEFT WHITE;eBLACK;dRIGHT WHITE;
eBLACK;dDOWN WHITE;eBLACK;dUP RIGHT WHITE;fBLACK;bMOON NOTEHEAD WHITE;dBLACK;
bTRIANGLE-ROUND NOTEHEAD DOWN WHITE;eBLACK;bPARENTHESIS NOTEHEAD;bVOID NOTEHEAD;bNOTEHEAD BLACK;
bNULL NOTEHEAD;bCLUSTER NOTEHEAD WHITE;dBLACK;bBREVE;bWHOLE NOTE;bHALF NOTE;bQUARTER NOTE;
bEIGHTH NOTE;bSIXTEENTH NOTE;bTHIRTY-SECOND NOTE;bSIXTY-FOURTH NOTE;
bONE HUNDRED TWENTY-EIGHTH NOTE;bCOMBINING STEM;cSPRECHGESANG STEM;cTREMOLO-1;cTREMOLO-2;
cTREMOLO-3;bFINGERED TREMOLO-1;cTREMOLO-2;cTREMOLO-3;bCOMBINING AUGMENTATION DOT;cFLAG-1;cFLAG-2;
cFLAG-3;cFLAG-4;cFLAG-5;bBEGIN BEAM;bEND BEAM;bBEGIN TIE;bEND TIE;bBEGIN SLUR;bEND SLUR;
bBEGIN PHRASE;bEND PHRASE;bCOMBINING ACCENT;cSTACCATO;cTENUTO;cSTACCATISSIMO;cMARCATO;
cMARCATO-STACCATO;cACCENT-STACCATO;cLOURE;bARPEGGIATO UP;cDOWN;bCOMBINING DOIT;cRIP;cFLIP;cSMEAR;
cBEND;cDOUBLE TONGUE;cTRIPLE TONGUE;bRINFORZANDO;bSUBITO;bZ;bPIANO;bMEZZO;bFORTE;bCRESCENDO;
bDECRESCENDO;bGRACE NOTE SLASH;dNO SLASH;bTR;bTURN;bINVERTED TURN;bTURN SLASH;cUP;
bORNAMENT STROKE-1;cSTROKE-2;cSTROKE-3;cSTROKE-4;cSTROKE-5;cSTROKE-6;cSTROKE-7;cSTROKE-8;
cSTROKE-9;cSTROKE-10;cSTROKE-11;bHAUPTSTIMME;bNEBENSTIMME;bEND OF STIMME;bDEGREE SLASH;
bCOMBINING DOWN BOW;cUP BOW;cHARMONIC;cSNAP PIZZICATO;bPEDAL MARK;cUP MARK;bHALF PEDAL MARK;
bGLISSANDO UP;cDOWN;bWITH FINGERNAILS;bDAMP;cALL;bMAXIMA;bLONGA;bBREVIS;bSEMIBREVIS WHITE;cBLACK;
bMINIMA;cBLACK;bSEMIMINIMA WHITE;cBLACK;bFUSA WHITE;cBLACK;bLONGA PERFECTA REST;cIMPERFECTA REST;
bBREVIS REST;bSEMIBREVIS REST;bMINIMA REST;bSEMIMINIMA REST;
bTEMPUS PERFECTUM CUM PROLATIONE PERFECTA;fIMPERFECTA;fPERFECTA DIMINUTION-1;
cIMPERFECTUM CUM PROLATIONE PERFECTA;fIMPERFECTA;gDIMINUTION-1;gDIMINUTION-2;gDIMINUTION-3;bCROIX;
bGREGORIAN C CLEF;cF CLEF;bSQUARE B;bVIRGA;bPODATUS;bCLIVIS;bSCANDICUS;bCLIMACUS;bTORCULUS;
bPORRECTUS;cFLEXUS;bSCANDICUS FLEXUS;bTORCULUS RESUPINUS;bPES SUBPUNCTIS;bKIEVAN C CLEF;
cEND OF PIECE;cFINAL NOTE;cRECITATIVE MARK;cWHOLE NOTE;cHALF NOTE;cQUARTER NOTE STEM DOWN;fUP;
cEIGHTH NOTE STEM DOWN;fUP;cFLAT SIGN;bSORI;bKORON;1D200=GREEK VOCAL NOTATION SYMBOL-1;cSYMBOL-2;
cSYMBOL-3;cSYMBOL-4;cSYMBOL-5;cSYMBOL-6;cSYMBOL-7;cSYMBOL-8;cSYMBOL-9;cSYMBOL-10;cSYMBOL-11;
cSYMBOL-12;cSYMBOL-13;cSYMBOL-14;cSYMBOL-15;cSYMBOL-16;cSYMBOL-17;cSYMBOL-18;cSYMBOL-19;
cSYMBOL-20;cSYMBOL-21;cSYMBOL-22;cSYMBOL-23;cSYMBOL-24;cSYMBOL-50;cSYMBOL-51;cSYMBOL-52;
cSYMBOL-53;cSYMBOL-54;aINSTRUMENTAL NOTATION SYMBOL-1;cSYMBOL-2;cSYMBOL-4;cSYMBOL-5;cSYMBOL-7;
cSYMBOL-8;cSYMBOL-11;cSYMBOL-12;cSYMBOL-13;cSYMBOL-14;cSYMBOL-17;cSYMBOL-18;cSYMBOL-19;cSYMBOL-23;
cSYMBOL-24;cSYMBOL-25;cSYMBOL-26;cSYMBOL-27;cSYMBOL-29;cSYMBOL-30;cSYMBOL-32;cSYMBOL-36;
cSYMBOL-37;cSYMBOL-38;cSYMBOL-39;cSYMBOL-40;cSYMBOL-42;cSYMBOL-43;cSYMBOL-45;cSYMBOL-47;
cSYMBOL-48;cSYMBOL-49;cSYMBOL-50;cSYMBOL-51;cSYMBOL-52;cSYMBOL-53;cSYMBOL-54;
COMBINING GREEK MUSICAL TRISEME;cTETRASEME;cPENTASEME;GREEK MUSICAL LEIMMA;
1D2E0=MAYAN NUMERAL ZERO;bONE;bTWO;bTHREE;bFOUR;bFIVE;bSIX;bSEVEN;bEIGHT;bNINE;bTEN;bELEVEN;
bTWELVE;bTHIRTEEN;bFOURTEEN;bFIFTEEN;bSIXTEEN;bSEVENTEEN;bEIGHTEEN;bNINETEEN;
1D300=MONOGRAM FOR EARTH;DIGRAM FOR HEAVENLY EARTH;bHUMAN EARTH;bEARTHLY HEAVEN;cHUMAN;bEARTH;
TETRAGRAM FOR CENTRE;bFULL CIRCLE;bMIRED;bBARRIER;bKEEPING SMALL;bCONTRARIETY;bASCENT;bOPPOSITION;
bBRANCHING OUT;bDEFECTIVENESS OR DISTORTION;bDIVERGENCE;bYOUTHFULNESS;bINCREASE;bPENETRATION;
bREACH;bCONTACT;bHOLDING BACK;bWAITING;bFOLLOWING;bADVANCE;bRELEASE;bRESISTANCE;bEASE;bJOY;
bCONTENTION;bENDEAVOUR;bDUTIES;bCHANGE;bDECISIVENESS;bBOLD RESOLUTION;bPACKING;bLEGION;bCLOSENESS;
bKINSHIP;bGATHERING;bSTRENGTH;bPURITY;bFULLNESS;bRESIDENCE;bLAW OR MODEL;bRESPONSE;bGOING TO MEET;
bENCOUNTERS;bSTOVE;bGREATNESS;bENLARGEMENT;bPATTERN;bRITUAL;bFLIGHT;bVASTNESS OR WASTING;
bCONSTANCY;bMEASURE;bETERNITY;bUNITY;bDIMINISHMENT;bCLOSED MOUTH;bGUARDEDNESS;bGATHERING IN;
bMASSING;bACCUMULATION;bEMBELLISHMENT;bDOUBT;bWATCH;bSINKING;bINNER;bDEPARTURE;bDARKENING;
bDIMMING;bEXHAUSTION;bSEVERANCE;bSTOPPAGE;bHARDNESS;bCOMPLETION;bCLOSURE;bFAILURE;bAGGRAVATION;
bCOMPLIANCE;bON THE VERGE;bDIFFICULTIES;bLABOURING;bFOSTERING;1D360=COUNTING ROD UNIT DIGIT ONE;
dTWO;dTHREE;dFOUR;dFIVE;dSIX;dSEVEN;dEIGHT;dNINE;bTENS DIGIT ONE;dTWO;dTHREE;dFOUR;dFIVE;dSIX;
dSEVEN;dEIGHT;dNINE;IDEOGRAPHIC TALLY MARK ONE;cTWO;cTHREE;cFOUR;cFIVE;TALLY MARK ONE;bFIVE;
1D400=MATHEMATICAL BOLD CAPITAL A;cB;cC;cD;cE;cF;cG;cH;cI;cJ;cK;cL;cM;cN;cO;cP;cQ;cR;cS;cT;cU;cV;
cW;cX;cY;cZ;bSMALL A;cB;cC;cD;cE;cF;cG;cH;cI;cJ;cK;cL;cM;cN;cO;cP;cQ;cR;cS;cT;cU;cV;cW;cX;cY;cZ;
aITALIC CAPITAL A;cB;cC;cD;cE;cF;cG;cH;cI;cJ;cK;cL;cM;cN;cO;cP;cQ;cR;cS;cT;cU;cV;cW;cX;cY;cZ;
bSMALL A;cB;cC;cD;cE;cF;cG;1D456=cI;cJ;cK;cL;cM;cN;cO;cP;cQ;cR;cS;cT;cU;cV;cW;cX;cY;cZ;
aBOLD ITALIC CAPITAL A;dB;dC;dD;dE;dF;dG;dH;dI;dJ;dK;dL;dM;dN;dO;dP;dQ;dR;dS;dT;dU;dV;dW;dX;dY;dZ;
cSMALL A;dB;dC;dD;dE;dF;dG;dH;dI;dJ;dK;dL;dM;dN;dO;dP;dQ;dR;dS;dT;dU;dV;dW;dX;dY;dZ;
aSCRIPT CAPITAL A;1D49E=cC;cD;1D4A2=cG;1D4A5=cJ;cK;1D4A9=cN;cO;cP;cQ;1D4AE=cS;cT;cU;cV;cW;cX;cY;
cZ;bSMALL A;cB;cC;cD;1D4BB=cF;1D4BD=cH;cI;cJ;cK;cL;cM;cN;1D4C5=cP;cQ;cR;cS;cT;cU;cV;cW;cX;cY;cZ;
aBOLD SCRIPT CAPITAL A;dB;dC;dD;dE;dF;dG;dH;dI;dJ;dK;dL;dM;dN;dO;dP;dQ;dR;dS;dT;dU;dV;dW;dX;dY;dZ;
cSMALL A;dB;dC;dD;dE;dF;dG;dH;dI;dJ;dK;dL;dM;dN;dO;dP;dQ;dR;dS;dT;dU;dV;dW;dX;dY;dZ;
aFRAKTUR CAPITAL A;cB;1D507=cD;cE;cF;cG;1D50D=cJ;cK;cL;cM;cN;cO;cP;cQ;1D516=cS;cT;cU;cV;cW;cX;cY;
1D51E=bSMALL A;cB;cC;cD;cE;cF;cG;cH;cI;cJ;cK;cL;cM;cN;cO;cP;cQ;cR;cS;cT;cU;cV;cW;cX;cY;cZ;
aDOUBLE-STRUCK CAPITAL A;cB;1D53B=cD;cE;cF;cG;1D540=cI;cJ;cK;cL;cM;1D546=cO;1D54A=cS;cT;cU;cV;cW;
cX;cY;1D552=bSMALL A;cB;cC;cD;cE;cF;cG;cH;cI;cJ;cK;cL;cM;cN;cO;cP;cQ;cR;cS;cT;cU;cV;cW;cX;cY;cZ;
aBOLD FRAKTUR CAPITAL A;dB;dC;dD;dE;dF;dG;dH;dI;dJ;dK;dL;dM;dN;dO;dP;dQ;dR;dS;dT;dU;dV;dW;dX;dY;
dZ;cSMALL A;dB;dC;dD;dE;dF;dG;dH;dI;dJ;dK;dL;dM;dN;dO;dP;dQ;dR;dS;dT;dU;dV;dW;dX;dY;dZ;
aSANS-SERIF CAPITAL A;cB;cC;cD;cE;cF;cG;cH;cI;cJ;cK;cL;cM;cN;cO;cP;cQ;cR;cS;cT;cU;cV;cW;cX;cY;cZ;
bSMALL A;cB;cC;cD;cE;cF;cG;cH;cI;cJ;cK;cL;cM;cN;cO;cP;cQ;cR;cS;cT;cU;cV;cW;cX;cY;cZ;
bBOLD CAPITAL A;dB;dC;dD;dE;dF;dG;dH;dI;dJ;dK;dL;dM;dN;dO;dP;dQ;dR;dS;dT;dU;dV;dW;dX;dY;dZ;
cSMALL A;dB;dC;dD;dE;dF;dG;dH;dI;dJ;dK;dL;dM;dN;dO;dP;dQ;dR;dS;dT;dU;dV;dW;dX;dY;dZ;
bITALIC CAPITAL A;dB;dC;dD;dE;dF;dG;dH;dI;dJ;dK;dL;dM;dN;dO;dP;dQ;dR;dS;dT;dU;dV;dW;dX;dY;dZ;
cSMALL A;dB;dC;dD;dE;dF;dG;dH;dI;dJ;dK;dL;dM;dN;dO;dP;dQ;dR;dS;dT;dU;dV;dW;dX;dY;dZ;
bBOLD ITALIC CAPITAL A;eB;eC;eD;eE;eF;eG;eH;eI;eJ;eK;eL;eM;eN;eO;eP;eQ;eR;eS;eT;eU;eV;eW;eX;eY;eZ;
dSMALL A;eB;eC;eD;eE;eF;eG;eH;eI;eJ;eK;eL;eM;eN;eO;eP;eQ;eR;eS;eT;eU;eV;eW;eX;eY;eZ;
aMONOSPACE CAPITAL A;cB;cC;cD;cE;cF;cG;cH;cI;cJ;cK;cL;cM;cN;cO;cP;cQ;cR;cS;cT;cU;cV;cW;cX;cY;cZ;
bSMALL A;cB;cC;cD;cE;cF;cG;cH;cI;cJ;cK;cL;cM;cN;cO;cP;cQ;cR;cS;cT;cU;cV;cW;cX;cY;cZ;
aITALIC SMALL DOTLESS I;dJ;1D6A8=aBOLD CAPITAL ALPHA;cBETA;cGAMMA;cDELTA;cEPSILON;cZETA;cETA;
cTHETA;cIOTA;cKAPPA;cLAMDA;cMU;cNU;cXI;cOMICRON;cPI;cRHO;cTHETA SYMBOL;cSIGMA;cTAU;cUPSILON;cPHI;
cCHI;cPSI;cOMEGA;bNABLA;bSMALL ALPHA;cBETA;cGAMMA;cDELTA;cEPSILON;cZETA;cETA;cTHETA;cIOTA;cKAPPA;
cLAMDA;cMU;cNU;cXI;cOMICRON;cPI;cRHO;cFINAL SIGMA;cSIGMA;cTAU;cUPSILON;cPHI;cCHI;cPSI;cOMEGA;
bPARTIAL DIFFERENTIAL;bEPSILON SYMBOL;bTHETA SYMBOL;bKAPPA SYMBOL;bPHI SYMBOL;bRHO SYMBOL;
bPI SYMBOL;aITALIC CAPITAL ALPHA;cBETA;cGAMMA;cDELTA;cEPSILON;cZETA;cETA;cTHETA;cIOTA;cKAPPA;
cLAMDA;cMU;cNU;cXI;cOMICRON;cPI;cRHO;cTHETA SYMBOL;cSIGMA;cTAU;cUPSILON;cPHI;cCHI;cPSI;cOMEGA;
bNABLA;bSMALL ALPHA;cBETA;cGAMMA;cDELTA;cEPSILON;cZETA;cETA;cTHETA;cIOTA;cKAPPA;cLAMDA;cMU;cNU;
cXI;cOMICRON;cPI;cRHO;cFINAL SIGMA;cSIGMA;cTAU;cUPSILON;cPHI;cCHI;cPSI;cOMEGA;
bPARTIAL DIFFERENTIAL;bEPSILON SYMBOL;bTHETA SYMBOL;bKAPPA SYMBOL;bPHI SYMBOL;bRHO SYMBOL;
bPI SYMBOL;aBOLD ITALIC CAPITAL ALPHA;dBETA;dGAMMA;dDELTA;dEPSILON;dZETA;dETA;dTHETA;dIOTA;dKAPPA;
dLAMDA;dMU;dNU;dXI;dOMICRON;dPI;dRHO;dTHETA SYMBOL;dSIGMA;dTAU;dUPSILON;dPHI;dCHI;dPSI;dOMEGA;
cNABLA;cSMALL ALPHA;dBETA;dGAMMA;dDELTA;dEPSILON;dZETA;dETA;dTHETA;dIOTA;dKAPPA;dLAMDA;dMU;dNU;
dXI;dOMICRON;dPI;dRHO;dFINAL SIGMA;dSIGMA;dTAU;dUPSILON;dPHI;dCHI;dPSI;dOMEGA;
cPARTIAL DIFFERENTIAL;cEPSILON SYMBOL;cTHETA SYMBOL;cKAPPA SYMBOL;cPHI SYMBOL;cRHO SYMBOL;
cPI SYMBOL;aSANS-SERIF BOLD CAPITAL ALPHA;dBETA;dGAMMA;dDELTA;dEPSILON;dZETA;dETA;dTHETA;dIOTA;
dKAPPA;dLAMDA;dMU;dNU;dXI;dOMICRON;dPI;dRHO;dTHETA SYMBOL;dSIGMA;dTAU;dUPSILON;dPHI;dCHI;dPSI;
dOMEGA;cNABLA;cSMALL ALPHA;dBETA;dGAMMA;dDELTA;dEPSILON;dZETA;dETA;dTHETA;dIOTA;dKAPPA;dLAMDA;dMU;
dNU;dXI;dOMICRON;dPI;dRHO;dFINAL SIGMA;dSIGMA;dTAU;dUPSILON;dPHI;dCHI;dPSI;dOMEGA;
cPARTIAL DIFFERENTIAL;cEPSILON SYMBOL;cTHETA SYMBOL;cKAPPA SYMBOL;cPHI SYMBOL;cRHO SYMBOL;
cPI SYMBOL;cITALIC CAPITAL ALPHA;eBETA;eGAMMA;eDELTA;eEPSILON;eZETA;eETA;eTHETA;eIOTA;eKAPPA;
eLAMDA;eMU;eNU;eXI;eOMICRON;ePI;eRHO;eTHETA SYMBOL;eSIGMA;eTAU;eUPSILON;ePHI;eCHI;ePSI;eOMEGA;
dNABLA;dSMALL ALPHA;eBETA;eGAMMA;eDELTA;eEPSILON;eZETA;eETA;eTHETA;eIOTA;eKAPPA;eLAMDA;eMU;eNU;
eXI;eOMICRON;ePI;eRHO;eFINAL SIGMA;eSIGMA;eTAU;eUPSILON;ePHI;eCHI;ePSI;eOMEGA;
dPARTIAL DIFFERENTIAL;dEPSILON SYMBOL;dTHETA SYMBOL;dKAPPA SYMBOL;dPHI SYMBOL;dRHO SYMBOL;
dPI SYMBOL;aBOLD CAPITAL DIGAMMA;bSMALL DIGAMMA;1D7CE=bDIGIT ZERO;cONE;cTWO;cTHREE;cFOUR;cFIVE;
cSIX;cSEVEN;cEIGHT;cNINE;aDOUBLE-STRUCK DIGIT ZERO;cONE;cTWO;cTHREE;cFOUR;cFIVE;cSIX;cSEVEN;
cEIGHT;cNINE;aSANS-SERIF DIGIT ZERO;cONE;cTWO;cTHREE;cFOUR;cFIVE;cSIX;cSEVEN;cEIGHT;cNINE;
bBOLD DIGIT ZERO;dONE;dTWO;dTHREE;dFOUR;dFIVE;dSIX;dSEVEN;dEIGHT;dNINE;aMONOSPACE DIGIT ZERO;cONE;
cTWO;cTHREE;cFOUR;cFIVE;cSIX;cSEVEN;cEIGHT;cNINE;SIGNWRITING HAND-FIST INDEX;aHAND-CIRCLE INDEX;
aHAND-CUP INDEX;aHAND-OVAL INDEX;aHAND-HINGE INDEX;aHAND-ANGLE INDEX;aHAND-FIST INDEX BENT;
aHAND-CIRCLE INDEX BENT;aHAND-FIST THUMB UNDER INDEX BENT;bINDEX RAISED KNUCKLE;cCUPPED;cHINGED;
dLOW;aHAND-CIRCLE INDEX HINGE;aHAND-FIST INDEX MIDDLE;aHAND-CIRCLE INDEX MIDDLE;
aHAND-FIST INDEX MIDDLE BENT;dRAISED KNUCKLES;dHINGED;cUP MIDDLE HINGED;cHINGED MIDDLE UP;
cMIDDLE CONJOINED;eINDEX BENT;eMIDDLE BENT;eCUPPED;eHINGED;dCROSSED;
aHAND-CIRCLE INDEX MIDDLE CROSSED;aHAND-FIST MIDDLE BENT OVER INDEX;bINDEX BENT OVER MIDDLE;
cMIDDLE THUMB;aHAND-CIRCLE INDEX MIDDLE THUMB;aHAND-FIST INDEX MIDDLE STRAIGHT THUMB BENT;
dBENT THUMB STRAIGHT;dTHUMB BENT;dHINGED SPREAD THUMB SIDE;cUP MIDDLE HINGED THUMB SIDE;
gCONJOINED;cHINGED MIDDLE UP THUMB SIDE;cMIDDLE UP SPREAD THUMB FORWARD;dTHUMB CUPPED;eCIRCLED;
eHOOKED;eHINGED;bTHUMB BETWEEN INDEX MIDDLE STRAIGHT;bINDEX MIDDLE CONJOINED THUMB SIDE;
gCONJOINED;gBENT;bMIDDLE THUMB HOOKED INDEX UP;bINDEX THUMB HOOKED MIDDLE UP;
cMIDDLE CONJOINED HINGED THUMB SIDE;dCROSSED THUMB SIDE;dCONJOINED THUMB FORWARD;
eCUPPED THUMB FORWARD;bMIDDLE THUMB CUPPED INDEX UP;bINDEX THUMB CUPPED MIDDLE UP;
bMIDDLE THUMB CIRCLED INDEX UP;fHINGED;bINDEX THUMB ANGLED OUT MIDDLE UP;eIN MIDDLE UP;
dCIRCLED MIDDLE UP;cMIDDLE THUMB CONJOINED HINGED;eANGLED OUT;f;bMIDDLE THUMB ANGLED OUT INDEX UP;
gCROSSED;eINDEX UP;bINDEX THUMB HOOKED MIDDLE HINGED;aHAND-FLAT FOUR FINGERS;dBENT;dHINGED;
dCONJOINED;eSPLIT;aHAND-CLAW FOUR FINGERS CONJOINED;aHAND-FIST FOUR FINGERS CONJOINED BENT;
aHAND-HINGE FOUR FINGERS CONJOINED;aHAND-FLAT FIVE FINGERS SPREAD;bHEEL FIVE FINGERS SPREAD;
bFIVE FINGERS SPREAD FOUR BENT;bHEEL FIVE FINGERS SPREAD FOUR BENT;bFIVE FINGERS SPREAD BENT;
bHEEL FIVE FINGERS SPREAD BENT;bFIVE FINGERS SPREAD THUMB FORWARD;aHAND-CUP FIVE FINGERS SPREAD;
eOPEN;aHAND-HINGE FIVE FINGERS SPREAD OPEN;aHAND-OVAL FIVE FINGERS SPREAD;
aHAND-FLAT FIVE FINGERS SPREAD HINGED;fTHUMB SIDE;fNO THUMB;b;bBETWEEN PALM FACINGS;bHEEL;
bTHUMB SIDE;bHEEL THUMB SIDE;bTHUMB BENT;cFORWARD;bSPLIT INDEX THUMB SIDE;cCENTRE;dTHUMB SIDE;
fBENT;cLITTLE;aHAND-CLAW;bTHUMB SIDE;bNO THUMB;bTHUMB FORWARD;aHAND-HOOK CURLICUE;b;
aHAND-CUP OPEN;b;bOPEN THUMB SIDE;bTHUMB SIDE;bOPEN NO THUMB;bNO THUMB;bOPEN THUMB FORWARD;
bTHUMB FORWARD;aHAND-CURLICUE OPEN;b;aHAND-CIRCLE;aHAND-OVAL;bTHUMB SIDE;bNO THUMB;bTHUMB FORWARD;
aHAND-HINGE OPEN;cTHUMB FORWARD;b;bSMALL;bOPEN THUMB SIDE;bTHUMB SIDE;bOPEN NO THUMB;bNO THUMB;
bTHUMB SIDE TOUCHING INDEX;cBETWEEN MIDDLE RING;aHAND-ANGLE;aHAND-FIST INDEX MIDDLE RING;
aHAND-CIRCLE INDEX MIDDLE RING;aHAND-HINGE INDEX MIDDLE RING;aHAND-ANGLE INDEX MIDDLE RING;
aHAND-HINGE LITTLE;aHAND-FIST INDEX MIDDLE RING BENT;eCONJOINED;
aHAND-HINGE INDEX MIDDLE RING CONJOINED;aHAND-FIST LITTLE DOWN;dRIPPLE STRAIGHT;eCURVED;
dOTHERS CIRCLED;cUP;bTHUMB UNDER LITTLE UP;aHAND-CIRCLE LITTLE UP;aHAND-OVAL LITTLE UP;
aHAND-ANGLE LITTLE UP;aHAND-FIST LITTLE RAISED KNUCKLE;cBENT;cTOUCHES THUMB;cTHUMB;
aHAND-HINGE LITTLE THUMB;aHAND-FIST LITTLE INDEX THUMB;aHAND-HINGE LITTLE INDEX THUMB;
aHAND-ANGLE LITTLE INDEX THUMB INDEX THUMB OUT;g;aHAND-FIST LITTLE INDEX;
aHAND-CIRCLE LITTLE INDEX;aHAND-HINGE LITTLE INDEX;aHAND-ANGLE LITTLE INDEX;
aHAND-FIST INDEX MIDDLE LITTLE;aHAND-CIRCLE INDEX MIDDLE LITTLE;aHAND-HINGE INDEX MIDDLE LITTLE;
bRING;aHAND-ANGLE INDEX MIDDLE LITTLE;aHAND-FIST INDEX MIDDLE CROSS LITTLE;
aHAND-CIRCLE INDEX MIDDLE CROSS LITTLE;aHAND-FIST RING DOWN;
aHAND-HINGE RING DOWN INDEX THUMB HOOK MIDDLE;aHAND-ANGLE RING DOWN MIDDLE THUMB INDEX CROSS;
aHAND-FIST RING UP;cRAISED KNUCKLE;cLITTLE;aHAND-CIRCLE RING LITTLE;aHAND-OVAL RING LITTLE;
aHAND-ANGLE RING LITTLE;aHAND-FIST RING MIDDLE;dCONJOINED;dRAISED KNUCKLES;cINDEX;cTHUMB;
aHAND-HOOK RING THUMB;aHAND-FIST INDEX RING LITTLE;aHAND-CIRCLE INDEX RING LITTLE;
aHAND-CURLICUE INDEX RING LITTLE ON;aHAND-HOOK INDEX RING LITTLE OUT;eIN;eUNDER;
aHAND-CUP INDEX RING LITTLE;aHAND-HINGE INDEX RING LITTLE;aHAND-ANGLE INDEX RING LITTLE OUT;e;
aHAND-FIST MIDDLE DOWN;aHAND-HINGE MIDDLE;aHAND-FIST MIDDLE UP;aHAND-CIRCLE MIDDLE UP;
aHAND-FIST MIDDLE RAISED KNUCKLE;cUP THUMB SIDE;aHAND-HOOK MIDDLE THUMB;
aHAND-FIST MIDDLE THUMB LITTLE;cLITTLE;cRING LITTLE;aHAND-CIRCLE MIDDLE RING LITTLE;
aHAND-CURLICUE MIDDLE RING LITTLE ON;aHAND-CUP MIDDLE RING LITTLE;aHAND-HINGE MIDDLE RING LITTLE;
aHAND-ANGLE MIDDLE RING LITTLE OUT;eIN;e;aHAND-CIRCLE MIDDLE RING LITTLE BENT;
aHAND-CLAW MIDDLE RING LITTLE CONJOINED;fSIDE;aHAND-HOOK MIDDLE RING LITTLE CONJOINED OUT;fIN;f;
aHAND-HINGE INDEX HINGED;aHAND-FIST INDEX THUMB SIDE;aHAND-HINGE INDEX THUMB SIDE;
aHAND-FIST INDEX THUMB SIDE THUMB DIAGONAL;fCONJOINED;fBENT;eINDEX BENT;eBOTH BENT;eINDEX HINGE;
dFORWARD INDEX STRAIGHT;fBENT;dHOOK;dCURLICUE;dCURVE THUMB INSIDE;
aHAND-CLAW INDEX THUMB CURVE THUMB INSIDE;aHAND-FIST INDEX THUMB CURVE THUMB UNDER;dCIRCLE;
aHAND-CUP INDEX THUMB;dOPEN;aHAND-HINGE INDEX THUMB OPEN;dLARGE;d;dSMALL;
aHAND-ANGLE INDEX THUMB OUT;dIN;d;aHAND-FIST THUMB;cHEEL;cSIDE DIAGONAL;dCONJOINED;dBENT;cFORWARD;
cBETWEEN INDEX MIDDLE;dMIDDLE RING;dRING LITTLE;cUNDER TWO FINGERS;cOVER TWO FINGERS;
cUNDER THREE FINGERS;dFOUR FINGERS;cOVER FOUR RAISED KNUCKLES;b;bHEEL;aTOUCH SINGLE;bMULTIPLE;
bBETWEEN;aGRASP SINGLE;bMULTIPLE;bBETWEEN;aSTRIKE SINGLE;bMULTIPLE;bBETWEEN;aBRUSH SINGLE;
bMULTIPLE;bBETWEEN;aRUB SINGLE;bMULTIPLE;bBETWEEN;aSURFACE SYMBOLS;bBETWEEN;aSQUEEZE LARGE SINGLE;
bSMALL SINGLE;bLARGE MULTIPLE;bSMALL MULTIPLE;bSEQUENTIAL;aFLICK LARGE SINGLE;bSMALL SINGLE;
bLARGE MULTIPLE;bSMALL MULTIPLE;bSEQUENTIAL;aSQUEEZE FLICK ALTERNATING;
aMOVEMENT-HINGE UP DOWN LARGE;dSMALL;cSEQUENTIAL;bDOWN SEQUENTIAL;bUP DOWN ALTERNATING LARGE;
eSMALL;bSIDE TO SIDE SCISSORS;aMOVEMENT-WALLPLANE FINGER CONTACT;
aMOVEMENT-FLOORPLANE FINGER CONTACT;aMOVEMENT-WALLPLANE SINGLE STRAIGHT SMALL;dMEDIUM;dLARGE;
dLARGEST;cWRIST FLEX;bDOUBLE STRAIGHT;cWRIST FLEX;cALTERNATING;dWRIST FLEX;bCROSS;
bTRIPLE STRAIGHT MOVEMENT;cWRIST FLEX;cALTERNATING;dWRIST FLEX;bBEND SMALL;cMEDIUM;cLARGE;
bCORNER SMALL;cMEDIUM;cLARGE;cROTATION;bCHECK SMALL;cMEDIUM;cLARGE;bBOX SMALL;cMEDIUM;cLARGE;
bZIGZAG SMALL;cMEDIUM;cLARGE;bPEAKS SMALL;cMEDIUM;cLARGE;
aTRAVEL-WALLPLANE ROTATION-WALLPLANE SINGLE;cDOUBLE;cALTERNATING;bROTATION-FLOORPLANE SINGLE;
cDOUBLE;cALTERNATING;bSHAKING;bARM SPIRAL SINGLE;dDOUBLE;dTRIPLE;aMOVEMENT-DIAGONAL AWAY SMALL;
cMEDIUM;cLARGE;cLARGEST;bTOWARDS SMALL;cMEDIUM;cLARGE;cLARGEST;bBETWEEN AWAY SMALL;dMEDIUM;dLARGE;
dLARGEST;cTOWARDS SMALL;dMEDIUM;dLARGE;dLARGEST;aMOVEMENT-FLOORPLANE SINGLE STRAIGHT SMALL;
dMEDIUM;dLARGE;dLARGEST;cWRIST FLEX;bDOUBLE STRAIGHT;cWRIST FLEX;cALTERNATING;dWRIST FLEX;bCROSS;
bTRIPLE STRAIGHT MOVEMENT;cWRIST FLEX;cALTERNATING MOVEMENT;dWRIST FLEX;bBEND;bCORNER SMALL;
cMEDIUM;cLARGE;bCHECK;bBOX SMALL;cMEDIUM;cLARGE;bZIGZAG SMALL;cMEDIUM;cLARGE;bPEAKS SMALL;cMEDIUM;
cLARGE;aTRAVEL-FLOORPLANE ROTATION-FLOORPLANE SINGLE;cDOUBLE;cALTERNATING;
bROTATION-WALLPLANE SINGLE;cDOUBLE;cALTERNATING;bSHAKING;aMOVEMENT-WALLPLANE CURVE QUARTER SMALL;
dMEDIUM;dLARGE;dLARGEST;cHALF-CIRCLE SMALL;dMEDIUM;dLARGE;dLARGEST;cTHREE-QUARTER CIRCLE SMALL;
eMEDIUM;bHUMP SMALL;cMEDIUM;cLARGE;bLOOP SMALL;cMEDIUM;cLARGE;cSMALL DOUBLE;
bWAVE CURVE DOUBLE SMALL;eMEDIUM;eLARGE;dTRIPLE SMALL;eMEDIUM;eLARGE;bCURVE THEN STRAIGHT;
bCURVED CROSS SMALL;dMEDIUM;aROTATION-WALLPLANE SINGLE;bDOUBLE;bALTERNATE;
aMOVEMENT-WALLPLANE SHAKING;bCURVE HITTING FRONT WALL;bHUMP HITTING FRONT WALL;
bLOOP HITTING FRONT WALL;bWAVE HITTING FRONT WALL;aROTATION-WALLPLANE SINGLE HITTING FRONT WALL;
bDOUBLE HITTING FRONT WALL;bALTERNATING HITTING FRONT WALL;
aMOVEMENT-WALLPLANE CURVE HITTING CHEST;bHUMP HITTING CHEST;bLOOP HITTING CHEST;
bWAVE HITTING CHEST;aROTATION-WALLPLANE SINGLE HITTING CHEST;bDOUBLE HITTING CHEST;
bALTERNATING HITTING CHEST;aMOVEMENT-WALLPLANE WAVE DIAGONAL PATH SMALL;eMEDIUM;eLARGE;
aMOVEMENT-FLOORPLANE CURVE HITTING CEILING SMALL;eLARGE;bHUMP HITTING CEILING SMALL DOUBLE;
eLARGE DOUBLE;eSMALL TRIPLE;eLARGE TRIPLE;bLOOP HITTING CEILING SMALL SINGLE;eLARGE SINGLE;
eSMALL DOUBLE;eLARGE DOUBLE;bWAVE HITTING CEILING SMALL;eLARGE;
aROTATION-FLOORPLANE SINGLE HITTING CEILING;bDOUBLE HITTING CEILING;bALTERNATING HITTING CEILING;
aMOVEMENT-FLOORPLANE CURVE HITTING FLOOR SMALL;eLARGE;bHUMP HITTING FLOOR SMALL DOUBLE;
eLARGE DOUBLE;eTRIPLE SMALL TRIPLE;fLARGE TRIPLE;bLOOP HITTING FLOOR SMALL SINGLE;eLARGE SINGLE;
eSMALL DOUBLE;eLARGE DOUBLE;bWAVE HITTING FLOOR SMALL;eLARGE;
aROTATION-FLOORPLANE SINGLE HITTING FLOOR;bDOUBLE HITTING FLOOR;bALTERNATING HITTING FLOOR;
aMOVEMENT-FLOORPLANE CURVE SMALL;cMEDIUM;cLARGE;cLARGEST;cCOMBINED;bHUMP SMALL;bLOOP SMALL;
bWAVE SNAKE;cSMALL;cLARGE;aROTATION-FLOORPLANE SINGLE;bDOUBLE;bALTERNATING;
aMOVEMENT-FLOORPLANE SHAKING PARALLEL;aMOVEMENT-WALLPLANE ARM CIRCLE SMALL SINGLE;dMEDIUM SINGLE;
dSMALL DOUBLE;dMEDIUM DOUBLE;aMOVEMENT-FLOORPLANE ARM CIRCLE HITTING WALL SMALL SINGLE;
fMEDIUM SINGLE;fLARGE SINGLE;fSMALL DOUBLE;fMEDIUM DOUBLE;fLARGE DOUBLE;
aMOVEMENT-WALLPLANE WRIST CIRCLE FRONT SINGLE;eDOUBLE;
aMOVEMENT-FLOORPLANE WRIST CIRCLE HITTING WALL SINGLE;fDOUBLE;
aMOVEMENT-WALLPLANE FINGER CIRCLES SINGLE;dDOUBLE;
aMOVEMENT-FLOORPLANE FINGER CIRCLES HITTING WALL SINGLE;fDOUBLE;aDYNAMIC ARROWHEAD SMALL;cLARGE;
bFAST;bSLOW;bTENSE;bRELAXED;bSIMULTANEOUS;cALTERNATING;bEVERY OTHER TIME;bGRADUAL;aHEAD;bRIM;
bMOVEMENT-WALLPLANE STRAIGHT;cTILT;bMOVEMENT-FLOORPLANE STRAIGHT;bMOVEMENT-WALLPLANE CURVE;
bMOVEMENT-FLOORPLANE CURVE;bMOVEMENT CIRCLE;aFACE DIRECTION POSITION NOSE FORWARD TILTING;
eUP OR DOWN;hTILTING;aEYEBROWS STRAIGHT UP;cNEUTRAL;cDOWN;aDREAMY EYEBROWS NEUTRAL DOWN;
cDOWN NEUTRAL;cUP NEUTRAL;cNEUTRAL UP;aFOREHEAD NEUTRAL;bCONTACT;bWRINKLED;aEYES OPEN;bSQUEEZED;
bCLOSED;aEYE BLINK SINGLE;cMULTIPLE;aEYES HALF OPEN;bWIDE OPEN;bHALF CLOSED;bWIDENING MOVEMENT;
aEYE WINK;aEYELASHES UP;bDOWN;bFLUTTERING;aEYEGAZE-WALLPLANE STRAIGHT;cDOUBLE;cALTERNATING;
aEYEGAZE-FLOORPLANE STRAIGHT;cDOUBLE;cALTERNATING;aEYEGAZE-WALLPLANE CURVED;
aEYEGAZE-FLOORPLANE CURVED;aEYEGAZE-WALLPLANE CIRCLING;aCHEEKS PUFFED;bNEUTRAL;bSUCKED;
aTENSE CHEEKS HIGH;cMIDDLE;cLOW;aEARS;aNOSE NEUTRAL;bCONTACT;bWRINKLES;bWIGGLES;aAIR BLOWING OUT;
bSUCKING IN;bBLOW SMALL ROTATIONS;bSUCK SMALL ROTATIONS;aBREATH INHALE;bEXHALE;
aMOUTH CLOSED NEUTRAL;cFORWARD;cCONTACT;bSMILE;cWRINKLED;cOPEN;bFROWN;cWRINKLED;cOPEN;
bOPEN CIRCLE;cFORWARD;cWRINKLED;cOVAL;dWRINKLED;dYAWN;cRECTANGLE;dWRINKLED;dYAWN;bKISS;cFORWARD;
cWRINKLED;bTENSE;cFORWARD;cSUCKED;aLIPS PRESSED TOGETHER;aLIP LOWER OVER UPPER;bUPPER OVER LOWER;
aMOUTH CORNERS;bWRINKLES SINGLE;cDOUBLE;aTONGUE STICKING OUT FAR;bLICKING LIPS;bTIP BETWEEN LIPS;
cTOUCHING INSIDE MOUTH;bINSIDE MOUTH RELAXED;bMOVES AGAINST CHEEK;bCENTRE STICKING OUT;
cINSIDE MOUTH;aTEETH;bMOVEMENT;bON TONGUE;dMOVEMENT;cLIPS;dMOVEMENT;bBITE LIPS;
aMOVEMENT-WALLPLANE JAW;aMOVEMENT-FLOORPLANE JAW;aNECK;aHAIR;aEXCITEMENT;aSHOULDER HIP SPINE;
cPOSITIONS;aWALLPLANE SHOULDER HIP MOVE;aFLOORPLANE SHOULDER HIP MOVE;
aSHOULDER TILTING FROM WAIST;aTORSO-WALLPLANE STRAIGHT STRETCH;bCURVED BEND;
aTORSO-FLOORPLANE TWISTING;aUPPER BODY TILTING FROM HIP JOINTS;aLIMB COMBINATION;bLENGTH-1;
bLENGTH-2;bLENGTH-3;bLENGTH-4;bLENGTH-5;bLENGTH-6;bLENGTH-7;aFINGER;aLOCATION-WALLPLANE SPACE;
aLOCATION-FLOORPLANE SPACE;aLOCATION HEIGHT;bWIDTH;bDEPTH;bHEAD NECK;bTORSO;bLIMBS DIGITS;aCOMMA;
aFULL STOP;aSEMICOLON;aCOLON;aPARENTHESIS;1DA9B=aFILL MODIFIER-2;bMODIFIER-3;bMODIFIER-4;
bMODIFIER-5;bMODIFIER-6;1DAA1=aROTATION MODIFIER-2;bMODIFIER-3;bMODIFIER-4;bMODIFIER-5;
bMODIFIER-6;bMODIFIER-7;bMODIFIER-8;bMODIFIER-9;bMODIFIER-10;bMODIFIER-11;bMODIFIER-12;
bMODIFIER-13;bMODIFIER-14;bMODIFIER-15;bMODIFIER-16;
1DF00=LATIN SMALL LETTER FENG DIGRAPH WITH TRILL;cREVERSED SCRIPT G;
aLETTER SMALL CAPITAL TURNED G;aSMALL LETTER REVERSED K;aLETTER SMALL CAPITAL L WITH BELT;
aSMALL LETTER LEZH WITH RETROFLEX HOOK;cTURNED Y WITH BELT;cREVERSED ENG;
cTURNED R WITH LONG LEG AND RETROFLEX HOOK;cT WITH HOOK AND RETROFLEX HOOK;
aLETTER RETROFLEX CLICK WITH RETROFLEX HOOK;aSMALL LETTER ESH WITH DOUBLE BAR;gAND CURL;
cTURNED T WITH CURL;aLETTER INVERTED GLOTTAL STOP WITH CURL;bSTRETCHED C WITH CURL;
bSMALL CAPITAL TURNED K;aSMALL LETTER L WITH FISHHOOK;cDEZH DIGRAPH WITH PALATAL HOOK;
cL WITH BELT AND PALATAL HOOK;cENG WITH PALATAL HOOK;cTURNED R WITH PALATAL HOOK;
cR WITH FISHHOOK AND PALATAL HOOK;cTESH DIGRAPH WITH PALATAL HOOK;cEZH WITH PALATAL HOOK;
cDEZH DIGRAPH WITH RETROFLEX HOOK;cI WITH STROKE AND RETROFLEX HOOK;cO WITH RETROFLEX HOOK;
cTESH DIGRAPH WITH RETROFLEX HOOK;cC WITH RETROFLEX HOOK;cS WITH CURL;
1E000=COMBINING GLAGOLITIC LETTER AZU;cBUKY;cVEDE;cGLAGOLI;cDOBRO;cYESTU;cZHIVETE;1E008=cZEMLJA;
cIZHE;cINITIAL IZHE;cI;cDJERVI;cKAKO;cLJUDIJE;cMYSLITE;cNASHI;cONU;cPOKOJI;cRITSI;cSLOVO;cTVRIDO;
cUKU;cFRITU;cHERU;1E01B=cSHTA;cTSI;cCHRIVI;cSHA;cYERU;cYERI;cYATI;1E023=cYU;cSMALL YUS;1E026=cYO;
cIOTATED SMALL YUS;cBIG YUS;cIOTATED BIG YUS;cFITA;1E100=NYIAKENG PUACHUE HMONG LETTER MA;dTSA;
dNTA;dTA;dHA;dNA;dXA;dNKA;dCA;dLA;dSA;dZA;dNCA;dNTSA;dKA;dDA;dNYA;dNRA;dVA;dNTXA;dTXA;dFA;dRA;dQA;
dYA;dNQA;dPA;dXYA;dNPA;dDLA;dNPLA;dHAH;dMLA;dPLA;dGA;dRRA;dA;dAA;dI;dU;dO;dOO;dE;dEE;dW;
1E130=cTONE-B;cTONE-M;cTONE-J;cTONE-V;cTONE-S;cTONE-G;cTONE-D;cSIGN FOR PERSON;eTHING;eLOCATION;
eANIMAL;eINVERTEBRATE;dXW XW;cSYLLABLE LENGTHENER;1E140=cDIGIT ZERO;dONE;dTWO;dTHREE;dFOUR;dFIVE;
dSIX;dSEVEN;dEIGHT;dNINE;1E14E=cLOGOGRAM NYAJ;cCIRCLED CA;1E290=TOTO LETTER PA;bBA;bTA;bDA;bKA;
bGA;bMA;bNA;bNGA;bSA;bCHA;bYA;bWA;bJA;bHA;bRA;bLA;bI;bBREATHY I;bIU;bBREATHY IU;bU;bE;bBREATHY E;
bEO;bBREATHY EO;bO;bAE;bBREATHY AE;bA;aSIGN RISING TONE;1E2C0=WANCHO LETTER AA;bA;bBA;bCA;bDA;bGA;
bYA;bPHA;bLA;bNA;bPA;bTA;bTHA;bFA;bSA;bSHA;bJA;bZA;bWA;bVA;bKA;bO;bAU;bRA;bMA;bKHA;bHA;bE;bI;bNGA;
bU;bLLHA;bTSA;bTRA;bONG;bAANG;bANG;bING;bON;bEN;bAAN;bNYA;bUEN;bYIH;aTONE TUP;bTUPNI;bKOI;bKOINI;
aDIGIT ZERO;bONE;bTWO;bTHREE;bFOUR;bFIVE;bSIX;bSEVEN;bEIGHT;bNINE;1E2FF=aNGUN SIGN;
1E7E0=ETHIOPIC SYLLABLE HHYA;bHHYU;bHHYI;bHHYAA;bHHYEE;bHHYE;bHHYO;1E7E8=bGURAGE HHWA;bHHWI;
bHHWEE;bHHWE;1E7ED=bGURAGE MWI;cMWEE;1E7F0=cQWI;cQWEE;cQWE;cBWI;cBWEE;cKWI;cKWEE;cKWE;cGWI;cGWEE;
cGWE;cFWI;cFWEE;cPWI;cPWEE;"

end IgnoreRules.Unicode
